import XiaozhiPlatform.GoLib.Json

/-!
# JSON encoding of structs

How `encoding/json` writes and fills a struct. A struct is described by the list of its tagged
fields in declaration order; each field knows how to read its value for `json.Marshal` and how
to store a JSON value for a decoder with `DisallowUnknownFields`. A field name of the input
matches a tag exactly or, failing that, up to case; a repeated name overwrites the earlier
value; a null leaves the field as it is, or clears a pointer or a slice.

`decode_encode` reduces the round trip of a struct to the stores of its own fields, and
`decode_marshal` that of a struct with fields that `omitempty` leaves out.
-/

namespace GoLib.Json

/-! ## Case folding of field names -/

/-- The folding of `encoding/json`: ASCII letters to lower case, and the two characters outside
ASCII that fold to one. -/
def foldChar (c : Char) : Char :=
  if c.toNat = 0x17F then 's' else if c.toNat = 0x212A then 'k' else c.toLower

def foldName (name : String) : List Char := name.toList.map foldChar

/-! ## Fields -/

/-- A tagged field of a struct `σ`. -/
structure Field (σ : Type) where
  /-- The tag. -/
  name : String
  /-- The value that `json.Marshal` writes. -/
  get : σ → Json
  /-- The struct after storing a decoded value, or `none` for a value of the wrong type. -/
  set : Json → σ → Option σ

variable {σ τ α : Type}

section

variable (fields : List (Field σ))

/-- The field for a name of the input: an exact match, else the first match up to case. -/
def lookupField (name : String) : Option (Field σ) :=
  (fields.find? fun f => f.name = name).or
    (fields.find? fun f => foldName f.name = foldName name)

/-- `json.Marshal` of a struct. -/
def encode (value : σ) : Json :=
  .obj (fields.map fun f => (f.name, f.get value))

/-- Decoding into a struct that already holds `value`. -/
def decode (value : σ) : Json → Option σ
  | .null => some value
  | .obj members =>
    members.foldlM (fun acc (name, json) => do (← lookupField fields name).set json acc) value
  | _ => none

/-- Decoding by a decoder that ignores the names that the struct does not have. -/
def decodeLoose (value : σ) : Json → Option σ
  | .null => some value
  | .obj members =>
    members.foldlM (fun acc (name, json) =>
      match lookupField fields name with
      | some field => field.set json acc
      | none => some acc) value
  | _ => none

end

/-! ## Field types -/

/-- An integer as `json.Marshal` writes it. -/
def int (n : ℤ) : Json := .num (formatInt n)

/-- An unsigned integer as `json.Marshal` writes it. -/
def nat (n : ℕ) : Json := .num (formatNat n)

/-- A field of type `string`. -/
@[simps get]
def stringField (name : String) (get : σ → String) (put : String → σ → σ) : Field σ where
  name := name
  get value := .str (get value)
  set
    | .str s, value => some (put s value)
    | .null, value => some value
    | _, _ => none

/-- A field of a string type of which only the texts of `α` are used. Go stores any text and
leaves the check to the caller's validation; here a foreign text already fails to decode. -/
@[simps get]
def enumField (name : String) (text : α → String) (ofText : String → Option α)
    (get : σ → α) (put : α → σ → σ) : Field σ where
  name := name
  get value := .str (text (get value))
  set
    | .str s, value => (ofText s).map fun a => put a value
    | .null, value => some value
    | _, _ => none

/-- A field of type `int64` (or `int` on a 64-bit machine). -/
@[simps get]
def intField (name : String) (get : σ → ℤ) (put : ℤ → σ → σ) : Field σ where
  name := name
  get value := int (get value)
  set
    | .num literal, value => do
      let n ← parseInt literal
      if -2 ^ 63 ≤ n ∧ n < 2 ^ 63 then some (put n value) else none
    | .null, value => some value
    | _, _ => none

/-- A field of an unsigned type of `bits` bits. -/
@[simps get]
def uintField (bits : ℕ) (name : String) (get : σ → ℕ) (put : ℕ → σ → σ) : Field σ where
  name := name
  get value := nat (get value)
  set
    | .num literal, value => do
      let n ← parseNat literal
      if n < 2 ^ bits then some (put n value) else none
    | .null, value => some value
    | _, _ => none

section

variable (name : String) (fields : List (Field τ))

/-- A field that is itself a struct. -/
@[simps get]
def structField (get : σ → τ) (put : τ → σ → σ) :
    Field σ where
  name := name
  get value := encode fields (get value)
  set json value := (decode fields (get value) json).map fun inner => put inner value

/-- A field that points to a struct with the given zero value. -/
@[simps get]
def pointerField (zero : τ) (get : σ → Option τ)
    (put : Option τ → σ → σ) : Field σ where
  name := name
  get value := ((get value).map (encode fields)).getD .null
  set
    | .null, value => some (put none value)
    | json, value =>
      (decode fields ((get value).getD zero) json).map fun inner => put (some inner) value

/-- A slice of structs, where `none` is the nil slice. -/
@[simps get]
def sliceField (zero : τ) (get : σ → Option (List τ))
    (put : Option (List τ) → σ → σ) : Field σ where
  name := name
  get value := ((get value).map fun items => Json.arr (items.map (encode fields))).getD .null
  set
    | .null, value => some (put none value)
    | .arr items, value =>
      (items.mapM (decode fields zero)).map fun decoded => put (some decoded) value
    | _, _ => none

end

/-! ## Stores read back the written value -/

variable {fields : List (Field τ)}

section Fields

variable (name : String)

@[simp]
theorem set_stringField (get : σ → String) (put : String → σ → σ) (s : String) (value : σ) :
    (stringField name get put).set (.str s) value = some (put s value) := rfl

@[simp]
theorem set_enumField {text : α → String} {ofText : String → Option α}
    (h : ∀ a, ofText (text a) = some a) (get : σ → α) (put : α → σ → σ) (a : α) (value : σ) :
    (enumField name text ofText get put).set (.str (text a)) value = some (put a value) := by
  simp [enumField, h]

theorem set_intField (h : -2 ^ 63 ≤ n ∧ n < 2 ^ 63) (get : σ → ℤ) (put : ℤ → σ → σ)
    (value : σ) : (intField name get put).set (int n) value = some (put n value) := by
  simp only [intField, int, parseInt_formatInt, Option.bind_eq_bind, Option.bind_some]
  rw [if_pos h]

theorem set_uintField (h : n < 2 ^ bits) (get : σ → ℕ) (put : ℕ → σ → σ)
    (value : σ) : (uintField bits name get put).set (nat n) value = some (put n value) := by
  simp only [uintField, nat, parseNat_formatNat, Option.bind_eq_bind, Option.bind_some]
  rw [if_pos h]

theorem set_structField {inner : τ} (h : ∀ start, decode fields start
    (encode fields inner) = some inner) (get : σ → τ) (put : τ → σ → σ) (value : σ) : (structField
    name fields get put).set (encode fields inner) value = some (put inner value) := by
  simp [structField, h]

theorem set_pointerField {inner : Option τ} (h : ∀ target ∈ inner, ∀
    start, decode fields start (encode fields target) = some target) (zero : τ) (get : σ → Option τ)
    (put : Option τ → σ → σ) (value : σ) : (pointerField name fields zero get put).set ((inner.map
    (encode fields)).getD .null) value = some (put inner value) := by
  cases inner with
  | none => rfl
  | some target =>
    change (decode fields _ (encode fields target)).map _ = _
    rw [h target rfl]
    rfl

theorem mapM_decode_encode {zero : τ} {items : List τ}
    (h : ∀ item ∈ items, decode fields zero (encode fields item) = some item) :
    (items.map (encode fields)).mapM (decode fields zero) = some items := by
  induction items with
  | nil => rfl
  | cons item items ih => grind

theorem set_sliceField_arr {zero : τ} {items : List τ} (h : ∀ item ∈
    items, decode fields zero (encode fields item) = some item) (get : σ → Option (List τ)) (put :
    Option (List τ) → σ → σ) (value : σ) : (sliceField name fields zero get put).set (.arr
    (items.map (encode fields))) value = some (put (some items) value) := by
  simp [sliceField, mapM_decode_encode h]

theorem set_sliceField (h : ∀ item ∈
    slice.getD [], decode fields zero (encode fields item) = some item) (get : σ → Option (List τ))
    (put : Option (List τ) → σ → σ) (value : σ) : (sliceField name fields zero get put).set
    ((slice.map fun items => Json.arr (items.map (encode fields))).getD .null) value = some (put
    slice value) := by
  cases slice with
  | none => rfl
  | some items => exact set_sliceField_arr name h get put value

end Fields

/-- Decoding an object that was written from some of the fields performs their stores in order. The
tags must be pairwise distinct, so that every name finds its own field. -/
theorem decode_obj {fields part : List (Field σ)} (hnodup : (fields.map Field.name).Nodup) (hpart :
    part ⊆ fields) (zero value : σ) : decode fields zero (.obj (part.map fun f => (f.name, f.get
    value))) = part.foldlM (fun acc f => f.set (f.get value) acc) zero := by
  have hlookup : ∀ f ∈ fields, lookupField fields f.name = some f := by
    intro f hf
    have hfind : fields.find? (fun g => g.name = f.name) = some f := by
      grind [List.find?_eq_some_iff_append, List.append_of_mem]
    rw [lookupField, hfind, Option.some_or]
  rw [decode]
  induction part generalizing zero with
  | nil => rfl
  | cons f part ih => grind

/-- Decoding an encoded struct performs the stores of its fields in order. -/
theorem decode_encode {fields : List (Field σ)} (hnodup : (fields.map Field.name).Nodup) (zero value
    : σ) : decode fields zero (encode fields value) = fields.foldlM (fun acc f => f.set (f.get
    value) acc) zero :=
  decode_obj hnodup (List.Subset.refl fields) zero value

/-! ## Fields that are left out when they are empty -/

/-- A field with the values for which `omitempty` leaves it out. -/
structure Tag (σ : Type) extends Field σ where
  omitted : σ → Bool

/-- A field without `omitempty`. -/
def Field.always (field : Field σ) : Tag σ := { field with omitted := fun _ => false }

/-- A field of type `string` with `omitempty`. -/
def optionalString (name : String) (get : σ → String) (put : String → σ → σ) : Tag σ :=
  { stringField name get put with omitted := fun value => get value = "" }

/-- A field of an unsigned type of `bits` bits with `omitempty`. -/
def optionalUint (bits : ℕ) (name : String) (get : σ → ℕ) (put : ℕ → σ → σ) : Tag σ :=
  { uintField bits name get put with omitted := fun value => get value = 0 }

/-- `json.Marshal` of a struct with fields that may be left out. -/
def marshal (tags : List (Tag σ)) (value : σ) : Json :=
  .obj ((tags.filter fun tag => !tag.omitted value).map fun tag => (tag.name, tag.get value))

/-- What decoding does for a field of a marshalled struct. -/
def Tag.store (tag : Tag σ) (value acc : σ) : Option σ :=
  if tag.omitted value = true then some acc else tag.set (tag.get value) acc

theorem decode_marshal {tags : List (Tag σ)} (hnodup : (tags.map fun tag => tag.name).Nodup) (zero
    value : σ) : decode (tags.map Tag.toField) zero (marshal tags value) = tags.foldlM (fun acc tag
    => tag.store value acc) zero := by
  have hwritten : (tags.filter fun tag => !tag.omitted value).map Tag.toField ⊆
      tags.map Tag.toField := List.map_subset Tag.toField (List.filter_subset_self tags)
  have hdecode := decode_obj (by simpa [Function.comp_def] using hnodup) hwritten zero value
  rw [List.map_map] at hdecode
  rw [marshal]
  refine hdecode.trans ?_
  -- A field that is not written leaves the struct as it is.
  clear hdecode hwritten hnodup
  induction tags generalizing zero with
  | nil => rfl
  | cons tag tags ih =>
    cases homitted : tag.omitted value with
    | true => simp [homitted, Tag.store, ih]
    | false => grind [Tag.store]

theorem store_optionalString (name : String) (get : σ → String) (put : String → σ → σ)
    (value : σ) (h : put "" acc = acc) :
    (optionalString name get put).store value acc = some (put (get value) acc) := by
  by_cases hempty : get value = ""
  · rw [hempty, h, Tag.store, if_pos (by simp [optionalString, hempty])]
  · rw [Tag.store, if_neg (by simp [optionalString, hempty])]
    rfl

theorem store_optionalUint (name : String) {get : σ → ℕ} (put : ℕ → σ → σ)
    (hbits : get value < 2 ^ bits) (h : put 0 acc = acc) :
    (optionalUint bits name get put).store value acc = some (put (get value) acc) := by
  by_cases hempty : get value = 0
  · rw [hempty, h, Tag.store, if_pos (by simp [optionalUint, hempty])]
  · rw [Tag.store, if_neg (by simp [optionalUint, hempty])]
    exact set_uintField name hbits get put acc

/-! ## Encoded structs hold valid numbers -/

theorem validItems_iff (items : List Json) : ValidItems items ↔ ∀ item ∈ items, item.Valid := by
  induction items with
  | nil => simp [ValidItems]
  | cons item items ih => simp [ValidItems, ih]

theorem validMembers_iff (members : List (String × Json)) :
    ValidMembers members ↔ ∀ member ∈ members, member.2.Valid := by
  induction members with
  | nil => simp [ValidMembers]
  | cons member members ih =>
    obtain ⟨key, value⟩ := member
    simp [ValidMembers, ih]

theorem valid_encode (h : ∀ f ∈ fields, (f.get value).Valid) : (encode fields value).Valid := by
  grind [encode, Valid, validMembers_iff]

theorem isNumberChar_of_isDigit (h : c.isDigit = true) : isNumberChar c = true := by
  simp [isNumberChar, h]

theorem validNumber_formatNat (n : ℕ) : validNumber (formatNat n) = true := by
  rcases Nat.eq_zero_or_pos n with rfl | hn
  · decide
  · obtain ⟨c, rest, hc, hlo, hhi⟩ := formatNat_head n hn
    have hdigits : ∀ d ∈ rest, d.isDigit = true := fun d hd =>
      isDigit_of_mem_formatNat (n := n) (by rw [hc]; simp [hd])
    have hminus : c ≠ '-' := by
      rintro rfl
      exact absurd hlo (by decide)
    have hzero : c ≠ '0' := by
      rintro rfl
      exact absurd hlo (by decide)
    have hdrop : rest.dropWhile Char.isDigit = [] := List.dropWhile_eq_nil_iff.mpr hdigits
    rw [hc]
    simp [validNumber, hminus, hzero, hlo, hhi, hdrop, validFraction, validExponent]

theorem valid_nat (n : ℕ) : (nat n).Valid :=
  ⟨validNumber_formatNat n, fun _ hc => isNumberChar_of_isDigit (isDigit_of_mem_formatNat hc)⟩

theorem valid_int (n : ℤ) : (int n).Valid := by
  by_cases hn : n < 0
  · rw [int, formatInt, if_pos hn]
    refine ⟨?_, ?_⟩
    · grind [validNumber_formatNat, formatNat, List.head?_eq_some_iff, head_formatNat_ne_minus, validNumber]
    · intro c hc
      rcases List.mem_cons.mp hc with rfl | hc
      · decide
      · exact isNumberChar_of_isDigit (isDigit_of_mem_formatNat hc)
  · rw [int, formatInt, if_neg hn]
    exact valid_nat _

/-! ## Sizes -/

theorem byteLength_quote_of_isPlain (h : ∀ c ∈ s.toList, IsPlain c) :
    byteLength (quote s) = s.toList.length + 2 := by
  have hascii : byteLength s.toList = s.toList.length :=
    byteLength_of_ascii fun c hc => (h c hc).2.1
  rw [quote_of_isPlain h, List.cons_append, byteLength_cons, byteLength_append, hascii]
  simp only [byteLength_cons, byteLength_nil, utf8Size_of_lt (c := '"') (by decide)]
  omega

theorem byteLength_renderItems (item : Json) (items : List Json) : byteLength (renderItems (item ::
    items)) + 1 = ((item :: items).map fun item => byteLength (render item) + 1).sum := by
  induction items generalizing item with
  | nil => simp [renderItems]
  | cons next rest ih =>
    rw [renderItems, byteLength_append, byteLength_cons, List.map_cons, List.sum_cons, ← ih next,
      utf8Size_of_lt (c := ',') (by decide)]
    omega

theorem byteLength_arr (items : List Json) : byteLength (render (.arr items)) = if items = [] then 2
    else 1 + (items.map fun item => byteLength (render item) + 1).sum := by
  rw [render, List.cons_append, byteLength_cons, byteLength_append, byteLength_cons, byteLength_nil,
    utf8Size_of_lt (c := '[') (by decide), utf8Size_of_lt (c := ']') (by decide)]
  cases items with
  | nil => simp [renderItems]
  | cons item items =>
    rw [if_neg (List.cons_ne_nil _ _), ← byteLength_renderItems]

theorem byteLength_renderMembers (member : String × Json) (members : List (String × Json)) :
    byteLength (renderMembers (member :: members)) + 1 = ((member :: members).map fun member =>
    byteLength (quote member.1) + byteLength (render member.2) + 2).sum := by
  induction members generalizing member with
  | nil =>
    obtain ⟨key, value⟩ := member
    rw [renderMembers]
    simp only [byteLength_append, byteLength_cons, List.map_cons, List.map_nil, List.sum_cons,
      List.sum_nil, utf8Size_of_lt (c := ':') (by decide)]
    omega
  | cons next rest ih =>
    obtain ⟨key, value⟩ := member
    rw [renderMembers]
    simp only [byteLength_append, byteLength_cons, List.map_cons, List.sum_cons,
      utf8Size_of_lt (c := ':') (by decide), utf8Size_of_lt (c := ',') (by decide)]
    have := ih next
    simp only [List.map_cons, List.sum_cons] at this
    omega

/-- The part of the size of a struct that its values do not change: the tags, the colon inside
each member, and the bracket or comma around it. -/
def overhead (fields : List (Field σ)) : ℕ :=
  1 + (fields.map fun f => byteLength (quote f.name) + 2).sum

theorem byteLength_encode {fields : List (Field σ)} (hne : fields ≠ []) (value : σ) :
    byteLength (render (encode fields value)) =
      overhead fields + (fields.map fun f => byteLength (render (f.get value))).sum := by
  have hsplit : (fields.map fun f =>
        byteLength (quote f.name) + byteLength (render (f.get value)) + 2).sum =
      (fields.map fun f => byteLength (quote f.name) + 2).sum +
        (fields.map fun f => byteLength (render (f.get value))).sum := by
    rw [← List.sum_map_add]
    congr 1
    exact List.map_congr_left fun f _ => by omega
  rw [overhead, encode, render, List.cons_append, byteLength_cons, byteLength_append,
    byteLength_cons, byteLength_nil, utf8Size_of_lt (c := '{') (by decide),
    utf8Size_of_lt (c := '}') (by decide)]
  obtain ⟨f, rest, rfl⟩ := List.exists_cons_of_ne_nil hne
  have hmembers :=
    byteLength_renderMembers (f.name, f.get value) (rest.map fun f => (f.name, f.get value))
  simp only [List.map_cons, List.sum_cons, List.map_map, Function.comp_def] at hmembers hsplit ⊢
  omega

theorem byteLength_nat (n : ℕ) : byteLength (render (nat n)) = (formatNat n).length :=
  byteLength_of_ascii fun _ hc => ascii_of_isDigit (isDigit_of_mem_formatNat hc)

theorem byteLength_int_of_nonneg (h : 0 ≤ n) :
    byteLength (render (int n)) = (formatNat n.toNat).length := by
  rw [← byteLength_nat, int, formatInt, if_neg (by omega), nat, show n.natAbs = n.toNat by omega]

theorem byteLength_int_le (hk : 0 < k) (h : n.natAbs < 10 ^ k) :
    byteLength (render (int n)) ≤ k + 1 := by
  have hdigits := length_formatNat_le hk h
  by_cases hn : n < 0
  · have hnat : byteLength (formatNat n.natAbs) = (formatNat n.natAbs).length :=
      byteLength_nat n.natAbs
    rw [int, formatInt, if_pos hn, render, byteLength_cons, hnat,
      utf8Size_of_lt (c := '-') (by decide)]
    omega
  · grind [byteLength_int_of_nonneg]

theorem byteLength_arr_le (h : ∀ item ∈ items, byteLength (render
    item) ≤ bound) : byteLength (render (.arr items)) ≤ 2 + items.length * (bound + 1) := by
  rw [byteLength_arr]
  split
  · omega
  · have hsum := List.sum_le_card_nsmul (items.map fun item => byteLength (render item) + 1)
      (bound + 1) (by simpa using h)
    simp only [List.length_map, smul_eq_mul] at hsum
    omega

end GoLib.Json
