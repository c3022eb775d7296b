import XiaozhiPlatform.GoLib.Error
import XiaozhiPlatform.GoLib.Keyed

/-!
# Tables and transactions

A table of a relational database is a list of rows, in the order of their insertion, that meets
the `CHECK` conditions and the `UNIQUE` keys of its schema. A statement that would break one of them
fails with the error of the constraint, so the constraints are fields of `Table`.

A transaction runs its statements on the database and takes effect as a whole or not at all.
Serializable transactions take effect one after the other. An attempt that is rolled back leaves
nothing behind, so a call that retries its transaction acts as its last attempt alone.

- `Table.exists_insert`, `Table.exists_update`: when a statement succeeds and what it leaves.
- `find?_append_key`, `find?_map_key`, `find?_filter_key`: the row of a key after a statement.
- `runTransaction_cases`: the effect and the reply of a transaction.
-/

namespace GoLib.Sql

variable {ρ κ δ α : Type}

/-! ## Rows -/

section Rows

variable [DecidableEq κ] {key : ρ → κ} {rows : List ρ} {k : κ}

/-- The condition that a row has a given key. -/
def byKey (key : ρ → κ) (k : κ) (row : ρ) : Bool := key row = k

theorem byKey_iff : byKey key k row = true ↔ key row = k := decide_eq_true_iff

theorem find?_key_iff (hnodup : (rows.map key).Nodup) :
    rows.find? (byKey key k) = some row ↔ row ∈ rows ∧ key row = k :=
  Keyed.find?_key_eq_some hnodup

theorem find?_key_eq_none : rows.find? (byKey key k) = none ↔ ∀ row ∈ rows, key row ≠ k := by
  simp [byKey]

theorem key_of_find? (h : rows.find? (byKey key k) = some row) : key row = k :=
  byKey_iff.mp (List.find?_some h)

theorem find?_append_key (row : ρ) : (rows ++ [row]).find? (byKey key k) = (rows.find? (byKey key
    k)).or (if key row = k then some row else none) := by
  rw [List.find?_append, List.find?_singleton]
  by_cases h : key row = k <;> simp [byKey, h]

/-- Rows that keep their keys are found where they were. -/
theorem find?_map_key {f : ρ → ρ} (hf : ∀ row, key (f row) = key row) :
    (rows.map f).find? (byKey key k) = (rows.find? (byKey key k)).map f := by
  rw [List.find?_map]
  congr 2
  funext row
  simp [byKey, hf]

theorem find?_filter_key (hnodup : (rows.map key).Nodup) (keep : ρ → Bool) :
    (rows.filter keep).find? (byKey key k) = (rows.find? (byKey key k)).filter keep := by
  have hsub : ((rows.filter keep).map key).Nodup := hnodup.sublist (List.filter_sublist.map key)
  ext row
  rw [find?_key_iff hsub, List.mem_filter, Option.filter_eq_some_iff, find?_key_iff hnodup]
  tauto

end Rows

/-! ## Tables -/

/-- A `UNIQUE` or `PRIMARY KEY` constraint, as the test whether two rows have the same key. -/
structure Unique (ρ : Type) where
  name : String
  same : ρ → ρ → Bool

/-- The constraint that a key occurs once. -/
def Unique.on [DecidableEq κ] (name : String) (key : ρ → κ) : Unique ρ :=
  ⟨name, fun a b => key a = key b⟩

/-- A `CHECK` constraint. -/
structure Check (ρ : Type) where
  name : String
  condition : ρ → Bool

structure Schema (ρ : Type) where
  name : String
  checks : List (Check ρ)
  uniques : List (Unique ρ)

/-- The error of a statement that would leave two rows with one key. -/
def uniqueViolation (constraint : String) : Error :=
  .postgres "23505" constraint
    ("duplicate key value violates unique constraint \"" ++ constraint ++ "\"")

/-- The error of a statement that would leave a row outside a `CHECK` condition. -/
def checkViolation (table constraint : String) : Error :=
  .postgres "23514" constraint
    ("new row for relation \"" ++ table ++ "\" violates check constraint \"" ++ constraint ++ "\"")

/-- The error of a statement that would leave a reference to a missing row. -/
def foreignKeyViolation (table constraint : String) : Error :=
  .postgres "23503" constraint
    ("insert or update on table \"" ++ table ++ "\" violates foreign key constraint \"" ++
      constraint ++ "\"")

namespace Schema

variable (schema : Schema ρ)

def Checked (row : ρ) : Prop := ∀ check ∈ schema.checks, check.condition row = true

def Distinct (a b : ρ) : Prop := ∀ unique ∈ schema.uniques, unique.same a b = false

/-- The first constraint that a list of rows breaks: a row is checked before its keys are looked
up. -/
def violation (rows : List ρ) : Option Error :=
  match schema.checks.find? fun check => !rows.all check.condition with
  | some check => some (checkViolation schema.name check.name)
  | none =>
    (schema.uniques.find? fun unique =>
      !decide (rows.Pairwise fun a b => unique.same a b = false)).map
      fun unique => uniqueViolation unique.name

variable {schema}

theorem violation_eq_none : schema.violation rows = none ↔ (∀ row ∈ rows,
    schema.Checked row) ∧ rows.Pairwise schema.Distinct := by
  have hchecks : (schema.checks.find? fun check => !rows.all check.condition) = none ↔
      ∀ row ∈ rows, schema.Checked row := by
    simp only [List.find?_eq_none, Bool.not_eq_true', Bool.not_eq_false, List.all_eq_true, Checked]
    exact ⟨fun h row hrow check hcheck => h check hcheck row hrow,
      fun h check hcheck row hrow => h row hrow check hcheck⟩
  have huniques : (schema.uniques.find? fun unique =>
        !decide (rows.Pairwise fun a b => unique.same a b = false)) = none ↔
      rows.Pairwise schema.Distinct := by
    simp only [List.find?_eq_none, Bool.not_eq_true', decide_eq_false_iff_not, not_not,
      List.pairwise_iff_forall_sublist]
    exact ⟨fun h a b hab unique hunique => h unique hunique hab,
      fun h unique hunique a b hab => h hab unique hunique⟩
  rw [violation]
  split
  next check h => grind
  next h => grind [Option.map_eq_none_iff]

end Schema

/-- The rows of a table, which meet the constraints of its schema. -/
@[ext]
structure Table (schema : Schema ρ) where
  rows : List ρ
  checked : ∀ row ∈ rows, schema.Checked row
  distinct : rows.Pairwise schema.Distinct

variable {key : ρ → κ}

namespace Table

variable {schema : Schema ρ}

def empty : Table schema := ⟨[], by simp, .nil⟩

/-- The table with new rows, or the error of the constraint that they break. -/
def write (rows : List ρ) : Except Error (Table schema) :=
  match h : schema.violation rows with
  | some error => .error error
  | none =>
    .ok ⟨rows, (Schema.violation_eq_none.mp h).1, (Schema.violation_eq_none.mp h).2⟩

variable (table : Table schema)

/-- `INSERT`. -/
def insert (row : ρ) : Except Error (Table schema) := write (table.rows ++ [row])

/-- `UPDATE … SET f WHERE p`. -/
def update (p : ρ → Bool) (f : ρ → ρ) : Except Error (Table schema) :=
  write (table.rows.map fun row => if p row then f row else row)

/-- `DELETE … WHERE p`. -/
def delete (p : ρ → Bool) : Table schema where
  rows := table.rows.filter fun row => !p row
  checked row hrow := table.checked row (List.mem_of_mem_filter hrow)
  distinct := table.distinct.filter _

/-- The row that `SELECT … WHERE p` returns first. -/
def select (p : ρ → Bool) : Option ρ := table.rows.find? p

/-- `SELECT count(*) … WHERE p`, and the number of rows that a statement with `WHERE p` affects. -/
def count (p : ρ → Bool) : ℕ := table.rows.countP p

variable {table} {table' : Table schema} {row : ρ} {p : ρ → Bool} {f : ρ → ρ}

theorem select_update [DecidableEq κ] (hrows : table'.rows = table.rows.map
    fun row => if p row then f row else row) (hf : ∀ row, key (f row) = key row) : table'.select
    (byKey key k) = (table.select (byKey key k)).map fun row => if p row then f row else row := by
  rw [select, select, hrows]
  refine find?_map_key fun row => ?_
  split
  · exact hf row
  · rfl

theorem select_append [DecidableEq κ] (hrows : table'.rows = table.rows ++
    [row]) : table'.select (byKey key k) = (table.select (byKey key k)).or (if key row = k then some
    row else none) := by
  rw [select, hrows, find?_append_key]
  rfl

theorem select_insert [DecidableEq κ] (hrows : table'.rows = table.rows ++ [row])
    (hfresh : table.select (byKey key (key row)) = none) : table'.select (byKey key k) =
      if key row = k then some row else table.select (byKey key k) := by
  rw [select_append hrows]
  split
  next heq => rw [← heq, hfresh, Option.none_or]
  next => exact Option.or_none

theorem select_update_key [DecidableEq κ] (hrows : table'.rows = table.rows.map fun row =>
    if byKey key k row then f row else row) (hf : ∀ row, key (f row) = key row) :
    table'.select (byKey key other) = if k = other then (table.select (byKey key other)).map f
      else table.select (byKey key other) := by
  rw [select_update hrows hf]
  cases hrow : table.select (byKey key other) with
  | none => simp
  | some row =>
    have hkey : key row = other := key_of_find? hrow
    by_cases h : k = other <;> simp [byKey, hkey, h, Ne.symm]

theorem write_eq_ok {rows : List ρ} : write rows = .ok table' ↔ table'.rows = rows ∧ (∀ row ∈ rows,
    schema.Checked row) ∧ rows.Pairwise schema.Distinct := by
  rw [write]
  split
  next error h => grind [Schema.violation_eq_none]
  next h =>
    simp only [Except.ok.injEq, Table.ext_iff]
    exact ⟨fun hrows => ⟨hrows.symm, Schema.violation_eq_none.mp h⟩, fun hrows => hrows.1.symm⟩

theorem insert_eq_ok : table.insert row = .ok table' ↔ table'.rows = table.rows ++ [row] ∧
    schema.Checked row ∧ ∀ other ∈ table.rows, schema.Distinct other row := by
  rw [insert, write_eq_ok, List.pairwise_append]
  have hchecked : (∀ other ∈ table.rows ++ [row], schema.Checked other) ↔ schema.Checked row := by
    simp only [List.mem_append, List.mem_singleton]
    refine ⟨fun h => h row (Or.inr rfl), ?_⟩
    rintro h other (hother | rfl)
    · exact table.checked other hother
    · exact h
  rw [hchecked]
  simp [table.distinct]

theorem rows_insert (h : table.insert row = .ok table') : table'.rows = table.rows ++ [row] :=
  (insert_eq_ok.mp h).1

theorem rows_update (h : table.update p f = .ok table') :
    table'.rows = table.rows.map fun row => if p row then f row else row :=
  (write_eq_ok.mp h).1

theorem exists_insert (table : Table schema) (row : ρ) (hchecked : schema.Checked row)
    (hdistinct : ∀ other ∈ table.rows, schema.Distinct other row) :
    ∃ next, table.insert row = .ok next ∧ next.rows = table.rows ++ [row] := by
  refine ⟨⟨table.rows ++ [row], ?_, ?_⟩, insert_eq_ok.mpr ⟨rfl, hchecked, hdistinct⟩, rfl⟩
  · simp only [List.mem_append, List.mem_singleton]
    rintro other (hother | rfl)
    · exact table.checked other hother
    · exact hchecked
  · rw [List.pairwise_append]
    exact ⟨table.distinct, by simp, by simpa using hdistinct⟩

/-- An update succeeds when the rows it changes pass the checks and no two rows share a key. -/
theorem exists_update (table : Table schema) (p : ρ → Bool) (f : ρ → ρ) (hchecked : ∀ row ∈
    table.rows, p row = true → schema.Checked (f row)) (hdistinct : (table.rows.map fun row => if p
    row then f row else row).Pairwise schema.Distinct) : ∃ next, table.update p f = .ok next ∧
    next.rows = table.rows.map fun row => if p row then f row else row := by
  have hall : ∀ row ∈ table.rows.map fun row => if p row then f row else row,
      schema.Checked row := by
    intro row hrow
    obtain ⟨old, hold, rfl⟩ := List.mem_map.mp hrow
    split
    next hp => exact hchecked old hold hp
    next => exact table.checked old hold
  exact ⟨⟨_, hall, hdistinct⟩, write_eq_ok.mpr ⟨rfl, hall, hdistinct⟩, rfl⟩

/-- Rows that an update keeps apart from the others, and that it changes one at a time, stay
distinct. -/
theorem pairwise_update [DecidableEq κ] (name : String) (hkey : Unique.on name
    key ∈ schema.uniques) (hleft : ∀ a ∈ table.rows, ∀ b ∈ table.rows, schema.Distinct a b → key a =
    k → key b ≠ k → schema.Distinct (f a) b) (hright : ∀ a ∈ table.rows, ∀ b ∈ table.rows,
    schema.Distinct a b → key a ≠ k → key b = k → schema.Distinct a (f b)) : (table.rows.map fun row
    => if byKey key k row then f row else row).Pairwise schema.Distinct := by
  rw [List.pairwise_map]
  refine table.distinct.imp_of_mem fun {a b} ha hb hab => ?_
  by_cases hka : key a = k <;> by_cases hkb : key b = k
  · -- Two rows do not have the key.
    have hsame := hab _ hkey
    simp [Unique.on, hka, hkb] at hsame
  · grind [byKey_iff]
  · grind [byKey_iff]
  · grind [byKey_iff]

theorem nodup_key [DecidableEq κ] (name : String)
    (h : Unique.on name key ∈ schema.uniques) : (table.rows.map key).Nodup :=
  List.pairwise_map.mpr (table.distinct.imp fun hdistinct heq => by
    simpa [Unique.on, heq] using hdistinct _ h)

end Table

/-! ## Transactions -/

/-- How the last attempt of a transaction ends. -/
inductive Outcome where
  /-- The client learns how its statements and its commit ended. -/
  | reported
  /-- The attempt takes no effect: the database cannot be reached, or it aborts the attempt. -/
  | failed (cause : Error)
  /-- The commit takes effect, but the connection is lost before the client learns so. -/
  | lost (cause : Error)
deriving DecidableEq, Repr

/-- The effect and the reply of a transaction. `settle` is what the client makes of the error
that the body of its last attempt returned, `unavailable` what it makes of a failure. -/
def runTransaction (unavailable settle : Error → Error) (outcome : Outcome)
    (body : δ → Except Error (α × δ)) (db : δ) : δ × Except Error α :=
  match outcome with
  | .failed cause => (db, .error (unavailable cause))
  | .reported =>
    match body db with
    | .ok (value, next) => (next, .ok value)
    | .error error => (db, .error (settle error))
  | .lost cause =>
    match body db with
    | .ok (_, next) => (next, .error (unavailable cause))
    | .error error => (db, .error (settle error))

section Transactions

variable (unavailable settle : Error → Error) (outcome : Outcome)
  (body : δ → Except Error (α × δ)) (db : δ)

/-- A transaction leaves the database as it was or as its body leaves it. -/
theorem runTransaction_cases : (runTransaction unavailable settle outcome body db).1 = db ∨ ∃ value,
    body db = .ok (value, (runTransaction unavailable settle outcome body db).1) := by
  cases outcome with
  | failed cause => exact Or.inl rfl
  | reported | lost =>
    simp only [runTransaction]
    split
    next value next h => exact Or.inr ⟨value, h⟩
    next error h => exact Or.inl rfl

variable {unavailable settle outcome body db}

theorem runTransaction_eq_ok : runTransaction unavailable settle outcome body
    db = (next, .ok value) ↔ outcome = .reported ∧ body db = .ok (value, next) := by
  cases outcome with
  | failed cause => simp [runTransaction]
  | reported | lost => grind [runTransaction]

end Transactions

end GoLib.Sql
