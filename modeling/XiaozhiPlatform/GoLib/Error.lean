import Mathlib

/-!
# Go errors

Error values as `errors.New` and `fmt.Errorf` make them, and the guard clauses that return one.
A function with guard clauses is a `do` block of `failIf` lines in `Except Error`;
`failIf_bind_eq_ok` reads such a block back as the conjunction of the guards that it passed.
-/

namespace GoLib

/-- An `error` value: a text, a cause wrapped by the `%w` verb behind a context or before a
detail, or a `pgconn.PgError` that the database reports. -/
inductive Error where
  | text (message : String)
  | wrap (context : String) (cause : Error)
  | detailed (cause : Error) (detail : String)
  | postgres (code constraint message : String)
deriving DecidableEq, Repr

/-- The text that `Error()` returns. -/
def Error.message : Error → String
  | .text message => message
  | .wrap context cause => context ++ ": " ++ cause.message
  | .detailed cause detail => cause.message ++ ": " ++ detail
  | .postgres code _ message => "ERROR: " ++ message ++ " (SQLSTATE " ++ code ++ ")"

/-- `errors.Is`: the target is the error itself or one of the causes that it wraps. -/
def Error.is : Error → Error → Bool
  | .text message, target => target = .text message
  | .wrap context cause, target => target = .wrap context cause || cause.is target
  | .detailed cause detail, target => target = .detailed cause detail || cause.is target
  | .postgres code constraint message, target => target = .postgres code constraint message

/-- `errors.As` for a `pgconn.PgError`: the code that the database reports. -/
def Error.sqlState : Error → Option String
  | .text _ => none
  | .wrap _ cause => cause.sqlState
  | .detailed cause _ => cause.sqlState
  | .postgres code _ _ => some code

/-- A guard clause that returns an error when its condition holds. -/
def failIf (condition : Prop) [Decidable condition] (error : Error) : Except Error Unit :=
  if condition then .error error else .ok ()

/-- `io.ReadFull`: as many bytes as asked for, with the rest of the source. -/
def readFull (size : ℕ) (random : List UInt8) : Except Error (List UInt8 × List UInt8) :=
  if random.length < size then
    .error (.text (if random = [] then "EOF" else "unexpected EOF"))
  else .ok (random.take size, random.drop size)

variable {α β : Type} {condition : Prop} [Decidable condition] {error : Error}

theorem failIf_of_pos (h : condition) : failIf condition error = .error error := if_pos h

theorem failIf_of_neg (h : ¬ condition) : failIf condition error = .ok () := if_neg h

@[simp]
theorem failIf_eq_ok (value : Unit) : failIf condition error = .ok value ↔ ¬ condition := by
  by_cases h : condition
  · rw [failIf_of_pos h]
    simp [h]
  · rw [failIf_of_neg h]
    simp [h]

theorem ok_bind (a : α) (f : α → Except Error β) : (Except.ok a >>= f) = f a := rfl

theorem error_bind (e : Error) (f : α → Except Error β) : (Except.error e >>= f) = .error e := rfl

theorem bind_eq_ok (x : Except Error α) (f : α → Except Error β) (b : β) :
    (x >>= f) = .ok b ↔ ∃ a, x = .ok a ∧ f a = .ok b := by
  cases x with
  | error | ok => simp [bind, Except.bind]

@[simp]
theorem mapError_eq_ok (x : Except Error α) (f : Error → Error) (a : α) :
    x.mapError f = .ok a ↔ x = .ok a := by
  cases x <;> simp [Except.mapError]

theorem toOption_eq_some {x : Except Error α} {a : α} : x.toOption = some a ↔ x = .ok a := by
  cases x <;> simp [Except.toOption]

/-- A block that starts with a guard succeeds when the guard is passed and the rest succeeds. -/
@[simp]
theorem failIf_bind_eq_ok (rest : Unit → Except Error β) (b : β) :
    (failIf condition error >>= rest) = .ok b ↔ ¬ condition ∧ rest () = .ok b := by
  by_cases h : condition
  · rw [failIf_of_pos h, error_bind]
    simp [h]
  · rw [failIf_of_neg h, ok_bind]
    exact ⟨fun hrest => ⟨h, hrest⟩, And.right⟩

end GoLib
