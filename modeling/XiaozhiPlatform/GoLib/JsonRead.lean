import XiaozhiPlatform.GoLib.JsonStruct
import XiaozhiPlatform.GoLib.Strconv

/-!
# The text of a value that was read

What the characters of a text can be when the parser has read an object of plain values from it. A
predicate of texts that every piece of such a text keeps (`Closed`) holds of the whole text. Plain
means ASCII without zeros and without backslashes, so that the text has only escapes that stand for
other characters than these.
-/

namespace GoLib.Json

/-- ASCII without the zero and the backslash. -/
def PlainChar (c : Char) : Prop := c.toNat < 128 ∧ c ≠ '\\' ∧ c.toNat ≠ 0
deriving Decidable

def PlainText (s : String) : Prop := ∀ c ∈ s.toList, PlainChar c

instance (s : String) : Decidable (PlainText s) :=
  decidable_of_iff (s.toList.all (fun c => decide (PlainChar c)) = true) (by
    simp only [List.all_eq_true, decide_eq_true_eq, PlainText])

/-- A value that is no object and no array, with a plain text. -/
def PlainScalar : Json → Prop
  | .str s => PlainText s
  | .obj _ | .arr _ => False
  | _ => True

theorem mem_decodeUnits (h : Sum.inl c ∈ units) : c ∈ decodeUnits units := by
  fun_induction decodeUnits units <;> simp_all <;> tauto

theorem zero_mem_decodeUnits (h : Sum.inr 0 ∈ units) : Char.ofNat 0 ∈ decodeUnits units := by
  have hzero : unitChar 0 = Char.ofNat 0 := rfl
  fun_induction decodeUnits units with
  | case1 => simp at h
  | case2 c rest ih => simp_all
  | case3 | case4 | case5 | case6 => grind

theorem parseNumber_eq_some (h : parseNumber input = some
    (value, rest)) : ∃ literal, value = .num literal ∧ validNumber literal = true ∧ input = literal
    ++ rest ∧ ∀ c ∈ literal, isNumberChar c = true := by
  grind [parseNumber, List.takeWhile_append_dropWhile, List.mem_takeWhile_imp]

theorem parse_eq_obj (h : parse input = some
    (.obj members)) : ∃ fuel tail final, skipSpace input = '{' :: tail ∧ skipSpace final = [] ∧
    (skipSpace tail = '}' :: final ∧ members = [] ∨ parseMembers fuel (skipSpace tail) = some
    (members, final)) := by
  obtain ⟨⟨value, final⟩, hvalue, h⟩ := Option.bind_eq_some_iff.mp h
  dsimp only at h
  split at h
  next hempty =>
    cases h
    have hfinal := List.isEmpty_iff.mp hempty
    unfold parseValue at hvalue
    split at hvalue
    next tail hbrace =>
      split at hvalue
      next hclose =>
        cases hvalue
        exact ⟨0, tail, final, hbrace, hfinal, .inl ⟨hclose, rfl⟩⟩
      next =>
        obtain ⟨⟨others, rest⟩, hmembers, hvalue⟩ := Option.map_eq_some_iff.mp hvalue
        cases hvalue
        exact ⟨_, tail, final, hbrace, hfinal, .inr hmembers⟩
    -- No other first character is that of an object.
    · grind [Option.map_eq_some_iff]
    · grind [Option.map_eq_some_iff]
    · cases hvalue
    · cases hvalue
    · cases hvalue
    · grind [parseNumber_eq_some]
  next => cases h

/-- A predicate of texts that the pieces of a text keep, from the right to the left. -/
structure Closed (P : List Char → Prop) : Prop where
  nil : P []
  char : ∀ {c rest}, c.toNat < 128 → c ≠ '\\' → P rest → P (c :: rest)
  short : ∀ {e unit rest}, shortEscape e = some unit → e ≠ '\\' → P rest → P ('\\' :: e :: rest)
  unicode : ∀ {a b c d rest h i j k}, Hex.value a = some h → Hex.value b = some i →
    Hex.value c = some j → Hex.value d = some k → 4096 * h + 256 * i + 16 * j + k ≠ 0 → P rest →
    P ('\\' :: 'u' :: a :: b :: c :: d :: rest)

variable {literal : List Char}

section Closed

variable {P : List Char → Prop} (hP : Closed P) {input rest : List Char}

include hP

theorem Closed.append (hchars : ∀ c ∈ chars, c.toNat < 128 ∧ c ≠ '\\')
    (h : P rest) : P (chars ++ rest) := by
  induction chars with
  | nil => exact h
  | cons c chars ih =>
    obtain ⟨hascii, hslash⟩ := hchars c List.mem_cons_self
    exact hP.char hascii hslash (ih fun d hd => hchars d (List.mem_cons_of_mem c hd))

theorem Closed.skipSpace (h : P (skipSpace input)) : P input := by
  rw [← List.takeWhile_append_dropWhile (p := isSpace) (l := input)]
  refine hP.append ?_ h
  intro c hc
  have hspace : isSpace c = true := List.mem_takeWhile_imp hc
  simp only [isSpace, Bool.or_eq_true, decide_eq_true_eq] at hspace
  rcases hspace with ((rfl | rfl) | rfl) | rfl <;> decide

theorem Closed.number (hchars : ∀ c ∈ literal, isNumberChar c = true)
    (h : P rest) : P (literal ++ rest) := by
  refine hP.append ?_ h
  intro c hc
  have hnumber := hchars c hc
  simp only [isNumberChar, Bool.or_eq_true, decide_eq_true_eq] at hnumber
  rcases hnumber with ((((hdigit | rfl) | rfl) | rfl) | rfl) | rfl
  · refine ⟨ascii_of_isDigit hdigit, ?_⟩
    rintro rfl
    exact absurd hdigit (by decide)
  all_goals decide

theorem Closed.units {units : List (Char ⊕ ℕ)} (h : parseUnits input = some (units, rest))
    (hplain : ∀ c, Sum.inl c ∈ units → PlainChar c) (hzero : Sum.inr 0 ∉ units) (hrest : P rest) :
    P input := by
  fun_induction parseUnits input generalizing units with
  | case1 | case5 | case6 => cases h
  | case2 tail =>
    cases h
    exact hP.char (by decide) (by decide) hrest
  | case3 a b c d tail ih =>
    simp only [Option.bind_eq_bind, Option.bind_eq_some_iff] at h
    obtain ⟨ha, hha, hb, hhb, hc, hhc, hd, hhd, ⟨others, final⟩, hothers, h⟩ := h
    cases h
    refine hP.unicode hha hhb hhc hhd ?_ (ih hothers ?_ ?_)
    · grind
    · grind
    · grind
  | case4 e tail hnot ih =>
    simp only [Option.bind_eq_bind, Option.bind_eq_some_iff] at h
    obtain ⟨unit, hunit, ⟨others, final⟩, hothers, h⟩ := h
    cases h
    refine hP.short hunit ?_ (ih hothers ?_ ?_)
    · rintro rfl
      cases hunit
      exact (hplain '\\' List.mem_cons_self).2.1 rfl
    · grind
    · grind
  | case7 c tail =>
    rename_i ih
    obtain ⟨⟨others, final⟩, hothers, h⟩ := Option.bind_eq_some_iff.mp h
    cases h
    obtain ⟨hascii, hslash, -⟩ := hplain c List.mem_cons_self
    refine hP.char hascii hslash (ih hothers ?_ ?_)
    · grind
    · grind

theorem Closed.string {s : String} (h : parseString input = some (s, rest)) (hplain : PlainText s)
    (hrest : P rest) : P input := by
  obtain ⟨⟨units, final⟩, hunits, h⟩ := Option.bind_eq_some_iff.mp h
  cases h
  rw [PlainText, String.toList_ofList] at hplain
  refine hP.units hunits (fun c hc => hplain c (mem_decodeUnits hc)) ?_ hrest
  intro hzero
  exact (hplain _ (zero_mem_decodeUnits hzero)).2.2 rfl

theorem Closed.value {fuel : ℕ} {value : Json} (h : parseValue fuel input = some (value, rest))
    (hplain : PlainScalar value) (hrest : P rest) : P input := by
  cases fuel with
  | zero => cases h
  | succ fuel =>
    apply hP.skipSpace
    unfold parseValue at h
    split at h
    -- An object and an array are not scalars.
    · split at h
      · cases h
        cases hplain
      · obtain ⟨members, -, h⟩ := Option.map_eq_some_iff.mp h
        cases h
        cases hplain
    · split at h
      · cases h
        cases hplain
      · obtain ⟨items, -, h⟩ := Option.map_eq_some_iff.mp h
        cases h
        cases hplain
    next heq =>
      obtain ⟨⟨s, final⟩, hstring, h⟩ := Option.map_eq_some_iff.mp h
      cases h
      rw [heq]
      exact hP.char (by decide) (by decide) (hP.string hstring hplain hrest)
    next heq =>
      cases h
      rw [heq]
      have hword : ∀ c ∈ ['n', 'u', 'l', 'l'], c.toNat < 128 ∧ c ≠ '\\' := by simp
      exact hP.append hword hrest
    next heq =>
      cases h
      rw [heq]
      have hword : ∀ c ∈ ['t', 'r', 'u', 'e'], c.toNat < 128 ∧ c ≠ '\\' := by simp
      exact hP.append hword hrest
    next heq =>
      cases h
      rw [heq]
      have hword : ∀ c ∈ ['f', 'a', 'l', 's', 'e'], c.toNat < 128 ∧ c ≠ '\\' := by simp
      exact hP.append hword hrest
    next =>
      obtain ⟨literal, -, -, heq, hchars⟩ := parseNumber_eq_some h
      rw [heq]
      exact hP.number hchars hrest

theorem Closed.members {fuel : ℕ} {members : List (String × Json)} (h : parseMembers fuel input =
    some (members, rest)) (hplain : ∀ member ∈ members, PlainText member.1 ∧ PlainScalar member.2)
    (hrest : P rest) : P input := by
  induction fuel generalizing input members with
  | zero => cases h
  | succ fuel ih =>
    apply hP.skipSpace
    unfold parseMembers at h
    split at h
    next tail heq =>
      rw [heq]
      apply hP.char (by decide) (by decide)
      obtain ⟨⟨key, afterKey⟩, hkey, h⟩ := Option.bind_eq_some_iff.mp h
      dsimp only at h
      split at h
      next afterColon hcolon =>
        obtain ⟨⟨value, afterValue⟩, hvalue, h⟩ := Option.bind_eq_some_iff.mp h
        dsimp only at h
        -- The value and its name stand before what follows them.
        have hpair : (key, value) ∈ members → P afterValue → P tail := by
          intro hmem hafter
          obtain ⟨hname, hscalar⟩ := hplain _ hmem
          refine hP.string hkey hname (hP.skipSpace ?_)
          rw [hcolon]
          exact hP.char (by decide) (by decide) (hP.value hvalue hscalar hafter)
        split at h
        next afterComma hcomma =>
          obtain ⟨⟨others, final⟩, hothers, h⟩ := Option.bind_eq_some_iff.mp h
          cases h
          refine hpair List.mem_cons_self (hP.skipSpace ?_)
          rw [hcomma]
          exact hP.char (by decide) (by decide)
            (ih hothers fun member hmember => hplain member (List.mem_cons_of_mem _ hmember))
        next final hbrace =>
          cases h
          refine hpair List.mem_cons_self (hP.skipSpace ?_)
          rw [hbrace]
          exact hP.char (by decide) (by decide) hrest
        next => cases h
      next => cases h
    next => cases h

theorem Closed.of_parse {members : List (String × Json)} (h : parse input = some (.obj members))
    (hplain : ∀ member ∈ members, PlainText member.1 ∧ PlainScalar member.2) : P input := by
  obtain ⟨fuel, tail, final, hbrace, hfinal, hbody⟩ := parse_eq_obj h
  have hend : P final := hP.skipSpace (hfinal ▸ hP.nil)
  apply hP.skipSpace
  rw [hbrace]
  apply hP.char (by decide) (by decide)
  apply hP.skipSpace
  rcases hbody with ⟨hempty, -⟩ | hmembers
  · rw [hempty]
    exact hP.char (by decide) (by decide) hend
  · exact hP.members hmembers hplain hend

end Closed

/-! ## Numbers that were read -/

theorem validNumber_of_parseValue
    (h : parseValue fuel input = some (.num literal, rest)) : validNumber literal = true := by
  cases fuel with
  | zero => cases h
  | succ fuel =>
    unfold parseValue at h
    split at h
    · grind [Option.map_eq_some_iff]
    · grind [Option.map_eq_some_iff]
    · grind [Option.map_eq_some_iff]
    · cases h
    · cases h
    · cases h
    · grind [parseNumber_eq_some]

variable {name : String}

theorem validNumber_of_parseMembers (h : parseMembers fuel input = some (members, rest))
    (hmem : (name, .num literal) ∈ members) : validNumber literal = true := by
  induction fuel generalizing input members with
  | zero => cases h
  | succ fuel ih =>
    unfold parseMembers at h
    split at h
    next =>
      obtain ⟨⟨key, afterKey⟩, -, h⟩ := Option.bind_eq_some_iff.mp h
      dsimp only at h
      split at h
      next =>
        obtain ⟨⟨value, afterValue⟩, hvalue, h⟩ := Option.bind_eq_some_iff.mp h
        dsimp only at h
        split at h
        next =>
          obtain ⟨⟨others, final⟩, hothers, h⟩ := Option.bind_eq_some_iff.mp h
          cases h
          rcases List.mem_cons.mp hmem with heq | hmem
          · cases heq
            exact validNumber_of_parseValue hvalue
          · exact ih hothers hmem
        next => grind [List.mem_singleton, validNumber_of_parseValue]
        next => cases h
      next => cases h
    next => cases h

theorem validNumber_of_parse (h : parse input = some (.obj members))
    (hmem : (name, .num literal) ∈ members) : validNumber literal = true := by
  obtain ⟨fuel, tail, final, -, -, hbody⟩ := parse_eq_obj h
  rcases hbody with ⟨-, rfl⟩ | hmembers
  · cases hmem
  · exact validNumber_of_parseMembers hmembers hmem

theorem eq_formatNat_of_parseNat (hvalid : validNumber literal = true)
    (h : parseNat literal = some n) : literal = formatNat n := by
  obtain ⟨hne, hdigits, rfl⟩ := parseNat_eq_some h
  cases literal with
  | nil => exact absurd rfl hne
  | cons first rest =>
    by_cases hfirst : first = '0'
    · -- After a zero there may only be a fraction or an exponent.
      subst hfirst
      cases rest with
      | nil => rfl
      | cons c rest =>
        have hdigit := hdigits c (by simp)
        have hdot : c ≠ '.' := by
          rintro rfl
          exact absurd hdigit (by decide)
        have he : c ≠ 'e' ∧ c ≠ 'E' := by
          constructor <;> rintro rfl <;> exact absurd hdigit (by decide)
        simp [validNumber, validFraction, validExponent, hdot, he] at hvalid
    · exact (formatNat_ofDigitChars hfirst hdigits).1.symm

theorem eq_formatInt_of_parseInt (hvalid : validNumber literal = true)
    (h : parseInt literal = some n) : literal = formatInt n ∨ literal = ['-', '0'] ∧ n = 0 := by
  unfold parseInt at h
  split at h
  next digits =>
    obtain ⟨m, hm, rfl⟩ := Option.map_eq_some_iff.mp h
    have hminus : digits.head? ≠ some '-' := by
      intro hhead
      obtain ⟨rest, rfl⟩ := List.head?_eq_some_iff.mp hhead
      exact absurd ((parseNat_eq_some hm).2.1 '-' List.mem_cons_self) (by decide)
    have hrest : validNumber digits = true := by grind [validNumber]
    obtain rfl := eq_formatNat_of_parseNat hrest hm
    rcases Nat.eq_zero_or_pos m with rfl | hpos
    · exact .inr ⟨rfl, rfl⟩
    · grind [formatInt]
  next => grind [Option.map_eq_some_iff, eq_formatNat_of_parseNat, formatInt, Int.natAbs_natCast]

theorem int_inj (h : int n = int m) : n = m := by
  have hparse := congrArg parseInt (Json.num.inj h)
  rw [parseInt_formatInt, parseInt_formatInt] at hparse
  exact Option.some.inj hparse

theorem nat_inj (h : nat n = nat m) : n = m := by
  have hparse := congrArg parseNat (Json.num.inj h)
  rw [parseNat_formatNat, parseNat_formatNat] at hparse
  exact Option.some.inj hparse

/-! ## Fields that were read -/

section Fields

variable {σ : Type} {fields : List (Field σ)} {json : Json}

/-- What a field holds after a store: the value that was read, the old value if that was null, and a
plain zero for a zero with a sign. -/
def Holds (json old new : Json) : Prop :=
  (json = .null ∧ new = old) ∨ new = json ∨ (json = .num ['-', '0'] ∧ new = .num ['0'])

/-- The numbers of a value that is a number follow the grammar. -/
def NumberValid (json : Json) : Prop := ∀ literal, json = .num literal → validNumber literal = true

/-- The field with a number stores what it reads and leaves the other fields alone. -/
def StoresAt (fields : List (Field σ)) (i : ℕ) (f : Field σ) : Prop :=
  fields[i]? = some f ∧ ∀ json value after, f.set json value = some after → NumberValid json →
    fields.map (·.get after) = (fields.map (·.get value)).set i (f.get after) ∧
      Holds json (f.get value) (f.get after)

theorem map_get_eq_set (hf : fields[i]? = some f) (value : σ) :
    fields.map (·.get value) = (fields.map (·.get value)).set i (f.get value) := by
  obtain ⟨hi, rfl⟩ := List.getElem?_eq_some_iff.mp hf
  refine List.ext_getElem (by simp) fun k hk hk' => ?_
  by_cases hki : i = k
  · subst hki
    simp
  · rw [List.getElem_set_ne hki]

theorem storesAt_stringField {get : σ → String} {put : String → σ → σ}
    (hf : fields[i]? = some (stringField name get put)) (hget : ∀ s value, get (put s value) = s)
    (hput : ∀ s value, fields.map (·.get (put s value)) = (fields.map (·.get value)).set i
    (.str s)) :
    StoresAt fields i (stringField name get put) := by
  refine ⟨hf, ?_⟩
  intro json value after hset _
  cases json with
  | str s =>
    cases hset
    rw [stringField_get, hget, hput]
    exact ⟨rfl, .inr (.inl rfl)⟩
  | null =>
    cases hset
    exact ⟨map_get_eq_set hf value, .inl ⟨rfl, rfl⟩⟩
  | _ => cases hset

theorem storesAt_uintField {get : σ → ℕ} {put : ℕ → σ → σ}
    (hf : fields[i]? = some (uintField bits name get put)) (hget : ∀ n value, get (put n value) = n)
    (hput : ∀ n value, fields.map (·.get (put n value)) = (fields.map (·.get value)).set i
    (nat n)) :
    StoresAt fields i (uintField bits name get put) := by
  refine ⟨hf, ?_⟩
  intro json value after hset hvalid
  cases json with
  | num literal =>
    obtain ⟨n, hn, hset⟩ := Option.bind_eq_some_iff.mp hset
    split at hset
    · cases hset
      rw [uintField_get, hget, hput]
      refine ⟨rfl, .inr (.inl ?_)⟩
      rw [nat, ← eq_formatNat_of_parseNat (hvalid literal rfl) hn]
    · cases hset
  | null =>
    cases hset
    exact ⟨map_get_eq_set hf value, .inl ⟨rfl, rfl⟩⟩
  | _ => cases hset

theorem storesAt_intField {get : σ → ℤ} {put : ℤ → σ → σ}
    (hf : fields[i]? = some (intField name get put)) (hget : ∀ n value, get (put n value) = n)
    (hput : ∀ n value, fields.map (·.get (put n value)) = (fields.map (·.get value)).set i
    (int n)) :
    StoresAt fields i (intField name get put) := by
  refine ⟨hf, ?_⟩
  intro json value after hset hvalid
  cases json with
  | num literal =>
    obtain ⟨n, hn, hset⟩ := Option.bind_eq_some_iff.mp hset
    split at hset
    · cases hset
      rw [intField_get, hget, hput]
      refine ⟨rfl, .inr ?_⟩
      rcases eq_formatInt_of_parseInt (hvalid literal rfl) hn with heq | ⟨rfl, rfl⟩
      · exact .inl (by rw [int, ← heq])
      · exact .inr ⟨rfl, rfl⟩
    · cases hset
  | null =>
    cases hset
    exact ⟨map_get_eq_set hf value, .inl ⟨rfl, rfl⟩⟩
  | _ => cases hset

theorem StoresAt.get_of_ne (hg : StoresAt fields j g)
    (hset : g.set json value = some after) (hvalid : NumberValid json) (hf : fields[i]? = some f)
    (hne : j ≠ i) : f.get after = f.get value := by
  have hmap := congrArg (·[i]?) (hg.2 json value after hset hvalid).1
  simpa [List.getElem?_set_ne hne, hf] using hmap

theorem exists_lookupField (h : name ∈ fields.map Field.name) :
    ∃ (j : ℕ) (g : Field σ), fields[j]? = some g ∧ g.name = name ∧ lookupField fields name = some g
    := by
  cases hfind : fields.find? fun g => g.name = name with
  | none => grind
  | some g =>
    obtain ⟨j, hj⟩ := List.getElem?_of_mem (List.mem_of_find?_eq_some hfind)
    have hname := List.find?_some hfind
    refine ⟨j, g, hj, of_decide_eq_true hname, ?_⟩
    rw [lookupField, hfind, Option.some_or]

theorem lookupField_eq_some (h : lookupField fields name = some f) :
    f ∈ fields ∧ foldName f.name = foldName name := by
  rcases Option.or_eq_some_iff.mp h with hfind | ⟨-, hfind⟩
  · grind
  · grind

theorem exists_set_of_mem {members : List (String × Json)} {start final : σ}
    (h : members.foldlM (fun acc (name, json) => do
    (← lookupField fields name).set json acc) start =
      some final) (hmem : (name, json) ∈ members) :
    ∃ f ∈ fields, foldName f.name = foldName name ∧ ∃ before after, f.set json before = some after
    := by
  induction members generalizing start with
  | nil => cases hmem
  | cons member members ih =>
    rw [List.foldlM_cons] at h
    obtain ⟨next, hnext, h⟩ := Option.bind_eq_some_iff.mp h
    obtain ⟨f, hlookup, hset⟩ := Option.bind_eq_some_iff.mp hnext
    rcases List.mem_cons.mp hmem with rfl | hmem
    · obtain ⟨hf, hname⟩ := lookupField_eq_some hlookup
      exact ⟨f, hf, hname, start, next, hset⟩
    · exact ih h hmem

theorem holds_of_members (hnodup : (fields.map Field.name).Nodup)
    (hstores : ∀ i f, fields[i]? = some f → StoresAt fields i f) {i : ℕ} {f : Field σ}
    (hf : fields[i]? = some f) {members : List (String × Json)} {start final : σ}
    (h : members.foldlM (fun acc (name, json) => do (← lookupField fields name).set json acc) start =
      some final)
    (hexact : ∀ member ∈ members, member.1 ∈ fields.map Field.name)
    (hunique : (members.map Prod.fst).Nodup) (hvalid : ∀ member ∈ members, NumberValid member.2) :
    (f.name ∉ members.map Prod.fst → f.get final = f.get start) ∧
      ∀ json, (f.name, json) ∈ members → Holds json (f.get start) (f.get final) ∧
        ∃ before after, f.set json before = some after := by
  induction members generalizing start with
  | nil =>
    cases h
    exact ⟨fun _ => rfl, nofun⟩
  | cons member rest ih =>
    obtain ⟨name, json⟩ := member
    obtain ⟨j, g, hj, rfl, hlookup⟩ := exists_lookupField (hexact _ List.mem_cons_self)
    simp only [List.foldlM_cons, hlookup, Option.bind_eq_bind, Option.bind_some,
      Option.bind_eq_some_iff] at h
    obtain ⟨after, hset, h⟩ := h
    rw [List.map_cons, List.nodup_cons] at hunique
    have hnumber := hvalid _ List.mem_cons_self
    obtain ⟨hother, hholds⟩ := ih h (fun m hm => hexact m (List.mem_cons_of_mem _ hm)) hunique.2
      fun m hm => hvalid m (List.mem_cons_of_mem _ hm)
    by_cases hij : j = i
    · -- The member is for this field, and no later one is.
      obtain rfl : g = f := by
        rw [hij, hf] at hj
        exact (Option.some.inj hj).symm
      refine ⟨fun hnot => absurd List.mem_cons_self hnot, ?_⟩
      intro other hmem
      rcases List.mem_cons.mp hmem with heq | hmem
      · cases heq
        rw [hother hunique.1]
        exact ⟨((hstores j g hj).2 json start after hset hnumber).2, start, after, hset⟩
      · exact absurd (List.mem_map_of_mem (f := Prod.fst) hmem) hunique.1
    · have hget := (hstores j g hj).get_of_ne hset hnumber hf hij
      rw [hget] at hother hholds
      have hname : f.name ≠ g.name := by
        intro hname
        obtain ⟨hlt, -⟩ := List.getElem?_eq_some_iff.mp hj
        refine hij ((List.getElem?_inj (by simpa using hlt) hnodup).mp ?_)
        rw [List.getElem?_map, List.getElem?_map, hf, hj, Option.map_some, Option.map_some, hname]
      refine ⟨fun hnot => hother fun hmem => hnot (List.mem_cons_of_mem _ hmem), ?_⟩
      intro other hmem
      rcases List.mem_cons.mp hmem with heq | hmem
      · exact absurd (congrArg Prod.fst heq) hname
      · exact hholds other hmem

end Fields

end GoLib.Json
