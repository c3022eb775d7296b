import XiaozhiPlatform.GoLib.Encoding

/-!
# JSON text

The part of `encoding/json` that the gateway's wire and disk formats rest on: the compact
rendering that `json.Marshal` writes, with its HTML-safe string escapes, and the parser behind
`json.Decoder`, with white space, escapes and surrogate pairs. A number keeps its literal, as
the Go decoder does until it knows the type of the field it fills.

The main result is `parse_render`: the parser reads back every value that the writer renders.
`formatInt` and `parseInt` are `strconv.FormatInt` and `strconv.ParseInt` in base ten.
-/

namespace GoLib

/-! ## Decimal numbers -/

/-- `strconv.FormatUint` in base ten. -/
def formatNat (n : ℕ) : List Char := Nat.toDigits 10 n

/-- `strconv.FormatInt` in base ten. -/
def formatInt (n : ℤ) : List Char :=
  if n < 0 then '-' :: formatNat n.natAbs else formatNat n.natAbs

/-- The value of a non-empty run of decimal digits. -/
def parseNat (text : List Char) : Option ℕ :=
  if text ≠ [] ∧ text.all Char.isDigit then some (Nat.ofDigitChars 10 text 0) else none

/-- `strconv.ParseInt` in base ten, before its range check. A literal of the JSON grammar never
starts with a plus sign, so that sign is not accepted here. -/
def parseInt : List Char → Option ℤ
  | '-' :: digits => (parseNat digits).map fun n : ℕ => -(n : ℤ)
  | digits => (parseNat digits).map fun n : ℕ => (n : ℤ)

variable {c : Char}

theorem isDigit_of_mem_formatNat (h : c ∈ formatNat n) : c.isDigit = true :=
  Nat.isDigit_of_mem_toDigits (by decide) (by decide) h

theorem ascii_of_isDigit (h : c.isDigit = true) : c.toNat < 128 := by
  simp only [Char.isDigit, Bool.and_eq_true, decide_eq_true_eq, UInt32.le_iff_toNat_le] at h
  change 48 ≤ c.toNat ∧ c.toNat ≤ 57 at h
  omega

theorem formatNat_ne_nil (n : ℕ) : formatNat n ≠ [] := Nat.toDigits_ne_nil

@[simp]
theorem parseNat_formatNat (n : ℕ) : parseNat (formatNat n) = some n := by
  have hall : (formatNat n).all Char.isDigit = true := by
    rw [List.all_eq_true]
    exact fun c hc => isDigit_of_mem_formatNat hc
  rw [parseNat, if_pos ⟨formatNat_ne_nil n, hall⟩, formatNat, Nat.ofDigitChars_ten_toDigits]

theorem head_formatNat_ne_minus (n : ℕ) (rest : List Char) : formatNat n ≠ '-' :: rest := by
  intro h
  have := isDigit_of_mem_formatNat (n := n) (c := '-') (by rw [h]; simp)
  exact absurd this (by decide)

@[simp]
theorem parseInt_formatInt (n : ℤ) : parseInt (formatInt n) = some n := by
  by_cases hn : n < 0
  · rw [formatInt, if_pos hn, parseInt, parseNat_formatNat, Option.map_some]
    congr 1
    omega
  · rw [formatInt, if_neg hn, parseInt, parseNat_formatNat, Option.map_some]
    · congr 1
      omega
    · exact fun rest h => head_formatNat_ne_minus _ _ h

theorem length_formatNat_le (hk : 0 < k) (h : n < 10 ^ k) : (formatNat n).length ≤ k :=
  (Nat.length_toDigits_le_iff (by decide) hk).mpr h

theorem formatNat_head (n : ℕ) (hn : 0 < n) :
    ∃ c rest, formatNat n = c :: rest ∧ '1' ≤ c ∧ c ≤ '9' := by
  induction n using Nat.strong_induction_on with
  | _ n ih =>
    by_cases h : n < 10
    · refine ⟨n.digitChar, [], Nat.toDigits_of_lt_base h, ?_⟩
      interval_cases n <;> decide
    · have hle : 10 ≤ n := Nat.le_of_not_lt h
      obtain ⟨c, rest, hc, hrange⟩ :=
        ih (n / 10) (Nat.div_lt_self hn (by decide)) (Nat.div_pos hle (by decide))
      refine ⟨c, rest ++ [(n % 10).digitChar], ?_, hrange⟩
      rw [formatNat, Nat.toDigits_of_base_le (by decide) hle]
      rw [formatNat] at hc
      rw [hc, List.cons_append]

/-! ## Values and their rendering -/

/-- A JSON value. -/
inductive Json where
  | null
  | bool (value : Bool)
  | num (literal : List Char)
  | str (value : String)
  | arr (items : List Json)
  | obj (members : List (String × Json))

variable {literal : List Char}

namespace Json

/-- The four lower-case hexadecimal digits of a code unit. -/
def hex4 (n : ℕ) : List Char :=
  [Hex.digit (n / 4096 % 16), Hex.digit (n / 256 % 16), Hex.digit (n / 16 % 16),
    Hex.digit (n % 16)]

/-- The characters that `json.Marshal` writes as a code-unit escape: the control characters
without a short escape, the HTML characters and the two line separators. -/
def isEscaped (c : Char) : Bool :=
  c.toNat < 0x20 || c = '<' || c = '>' || c = '&' || c.toNat = 0x2028 || c.toNat = 0x2029

/-- One character of a rendered string. -/
def escapeChar (c : Char) : List Char :=
  if c = '"' ∨ c = '\\' then ['\\', c]
  else if c = '\n' then ['\\', 'n']
  else if c = '\r' then ['\\', 'r']
  else if c = '\t' then ['\\', 't']
  else if c.toNat = 8 then ['\\', 'b']
  else if c.toNat = 12 then ['\\', 'f']
  else if isEscaped c then '\\' :: 'u' :: hex4 c.toNat
  else [c]

/-- The ASCII characters that stand for themselves in a rendered string. -/
def IsPlain (c : Char) : Prop :=
  0x20 ≤ c.toNat ∧ c.toNat < 128 ∧ c ∉ ['"', '\\', '<', '>', '&']
deriving Decidable

theorem forall_isPlain {text : List Char} (h : text.all (fun c => IsPlain c) = true) :
    ∀ c ∈ text, IsPlain c := fun c hc => of_decide_eq_true (List.all_eq_true.mp h c hc)

theorem escapeChar_of_isPlain (h : IsPlain c) : escapeChar c = [c] := by
  obtain ⟨hlow, hhigh, hnot⟩ := h
  simp only [List.mem_cons, List.not_mem_nil, or_false, not_or] at hnot
  have hcontrol : c ≠ '\n' ∧ c ≠ '\r' ∧ c ≠ '\t' := by
    refine ⟨?_, ?_, ?_⟩ <;> rintro rfl <;> exact absurd hlow (by decide)
  have hescaped : isEscaped c = false := by
    simp only [isEscaped, Bool.or_eq_false_iff, decide_eq_false_iff_not]
    exact ⟨⟨⟨⟨⟨by omega, hnot.2.2.1⟩, hnot.2.2.2.1⟩, hnot.2.2.2.2⟩, by omega⟩, by omega⟩
  rw [escapeChar, if_neg (by tauto), if_neg hcontrol.1, if_neg hcontrol.2.1,
    if_neg hcontrol.2.2, if_neg (by omega), if_neg (by omega), hescaped]
  rfl

/-- A rendered string with its quotes. -/
def quote (s : String) : List Char := '"' :: s.toList.flatMap escapeChar ++ ['"']

theorem quote_of_isPlain (h : ∀ c ∈ s.toList, IsPlain c) : quote s = '"' :: s.toList ++ ['"'] := by
  rw [quote, List.flatMap_congr fun c hc => escapeChar_of_isPlain (h c hc)]
  simp

mutual

/-- The compact text of a value, as `json.Marshal` writes it. -/
def render : Json → List Char
  | null => ['n', 'u', 'l', 'l']
  | bool true => ['t', 'r', 'u', 'e']
  | bool false => ['f', 'a', 'l', 's', 'e']
  | num literal => literal
  | str s => quote s
  | arr items => '[' :: renderItems items ++ [']']
  | obj members => '{' :: renderMembers members ++ ['}']

/-- The items of an array, separated by commas. -/
def renderItems : List Json → List Char
  | [] => []
  | [item] => render item
  | item :: next :: rest => render item ++ ',' :: renderItems (next :: rest)

/-- The members of an object, separated by commas. -/
def renderMembers : List (String × Json) → List Char
  | [] => []
  | [(key, value)] => quote key ++ ':' :: render value
  | (key, value) :: next :: rest =>
    quote key ++ ':' :: render value ++ ',' :: renderMembers (next :: rest)

end

/-! ## The parser -/

def isSpace (c : Char) : Bool := c = ' ' || c = '\t' || c = '\r' || c = '\n'

def skipSpace (input : List Char) : List Char := input.dropWhile isSpace

/-- The characters that can occur in a number. -/
def isNumberChar (c : Char) : Bool :=
  c.isDigit || c = '-' || c = '+' || c = '.' || c = 'e' || c = 'E'

/-- The exponent part of a number, or nothing. -/
def validExponent : List Char → Bool
  | [] => true
  | e :: rest =>
    let digits := if rest.head? = some '+' ∨ rest.head? = some '-' then rest.tail else rest
    (e = 'e' || e = 'E') && !digits.isEmpty && digits.all Char.isDigit

/-- The fraction and the exponent part of a number. -/
def validFraction : List Char → Bool
  | '.' :: c :: rest => c.isDigit && validExponent (rest.dropWhile Char.isDigit)
  | rest => validExponent rest

/-- The number grammar of RFC 8259. -/
def validNumber (literal : List Char) : Bool :=
  match if literal.head? = some '-' then literal.tail else literal with
  | [] => false
  | c :: rest =>
    if c = '0' then validFraction rest
    else '1' ≤ c && c ≤ '9' && validFraction (rest.dropWhile Char.isDigit)

/-- The character of a two-character escape. -/
def shortEscape : Char → Option Char
  | '"' => some '"'
  | '\\' => some '\\'
  | '/' => some '/'
  | 'b' => some (Char.ofNat 8)
  | 'f' => some (Char.ofNat 12)
  | 'n' => some '\n'
  | 'r' => some '\r'
  | 't' => some '\t'
  | _ => none

/-- The code units of a string body, up to its closing quote: a character as it stands, or the
code unit of an escape. -/
def parseUnits : List Char → Option (List (Char ⊕ ℕ) × List Char)
  | [] => none
  | '"' :: rest => some ([], rest)
  | '\\' :: 'u' :: a :: b :: c :: d :: rest => do
    let h ← Hex.value a
    let i ← Hex.value b
    let j ← Hex.value c
    let k ← Hex.value d
    let (units, rest) ← parseUnits rest
    return (.inr (4096 * h + 256 * i + 16 * j + k) :: units, rest)
  | '\\' :: e :: rest => do
    let unit ← shortEscape e
    let (units, rest) ← parseUnits rest
    return (.inl unit :: units, rest)
  | ['\\'] => none
  | c :: rest => do
    if c.toNat < 0x20 then none
    let (units, rest) ← parseUnits rest
    return (.inl c :: units, rest)

/-- The character of a code unit outside a surrogate pair; a lone surrogate becomes the
replacement character. -/
def unitChar (n : ℕ) : Char :=
  if 0xD800 ≤ n ∧ n < 0xE000 then Char.ofNat 0xFFFD else Char.ofNat n

/-- The characters of a list of code units; a surrogate pair is one character. -/
def decodeUnits : List (Char ⊕ ℕ) → List Char
  | [] => []
  | .inl c :: rest => c :: decodeUnits rest
  | [.inr n] => [unitChar n]
  | .inr n :: .inl c :: rest => unitChar n :: c :: decodeUnits rest
  | .inr n :: .inr m :: rest =>
    if 0xD800 ≤ n ∧ n < 0xDC00 ∧ 0xDC00 ≤ m ∧ m < 0xE000 then
      Char.ofNat (0x10000 + (n - 0xD800) * 0x400 + (m - 0xDC00)) :: decodeUnits rest
    else
      unitChar n :: decodeUnits (.inr m :: rest)

/-- A string after its opening quote, and the input after its closing quote. -/
def parseString (input : List Char) : Option (String × List Char) := do
  let (units, rest) ← parseUnits input
  return (String.ofList (decodeUnits units), rest)

/-- A number: the longest run of number characters, if it is one literal of the grammar. -/
def parseNumber (input : List Char) : Option (Json × List Char) :=
  let literal := input.takeWhile isNumberChar
  if validNumber literal then some (.num literal, input.dropWhile isNumberChar) else none

mutual

/-- A value and the input after it. Each call takes one unit of `fuel`. -/
def parseValue : ℕ → List Char → Option (Json × List Char)
  | 0, _ => none
  | fuel + 1, input =>
    match skipSpace input with
    | '{' :: rest =>
      match skipSpace rest with
      | '}' :: rest => some (.obj [], rest)
      | rest => (parseMembers fuel rest).map fun (members, rest) => (.obj members, rest)
    | '[' :: rest =>
      match skipSpace rest with
      | ']' :: rest => some (.arr [], rest)
      | rest => (parseItems fuel rest).map fun (items, rest) => (.arr items, rest)
    | '"' :: rest => (parseString rest).map fun (s, rest) => (.str s, rest)
    | 'n' :: 'u' :: 'l' :: 'l' :: rest => some (.null, rest)
    | 't' :: 'r' :: 'u' :: 'e' :: rest => some (.bool true, rest)
    | 'f' :: 'a' :: 'l' :: 's' :: 'e' :: rest => some (.bool false, rest)
    | rest => parseNumber rest

/-- The items of a non-empty array and the input after its closing bracket. -/
def parseItems : ℕ → List Char → Option (List Json × List Char)
  | 0, _ => none
  | fuel + 1, input => do
    let (item, rest) ← parseValue fuel input
    match skipSpace rest with
    | ',' :: rest =>
      let (items, rest) ← parseItems fuel rest
      return (item :: items, rest)
    | ']' :: rest => return ([item], rest)
    | _ => none

/-- The members of a non-empty object and the input after its closing brace. -/
def parseMembers : ℕ → List Char → Option (List (String × Json) × List Char)
  | 0, _ => none
  | fuel + 1, input =>
    match skipSpace input with
    | '"' :: rest => do
      let (key, rest) ← parseString rest
      match skipSpace rest with
      | ':' :: rest =>
        let (value, rest) ← parseValue fuel rest
        match skipSpace rest with
        | ',' :: rest =>
          let (members, rest) ← parseMembers fuel rest
          return ((key, value) :: members, rest)
        | '}' :: rest => return ([(key, value)], rest)
        | _ => none
      | _ => none
    | _ => none

end

/-- `decoder.Decode` of one value followed by `ensureJSONEOF`: nothing but white space may come
after the value. -/
def parse (input : List Char) : Option Json := do
  let (value, rest) ← parseValue (input.length + 1) input
  if (skipSpace rest).isEmpty then some value else none

/-! ## Reading back rendered strings -/

/-- The code unit under which a rendered character is read back. -/
def unitOf (c : Char) : Char ⊕ ℕ :=
  if c = '"' ∨ c = '\\' ∨ c = '\n' ∨ c = '\r' ∨ c = '\t' ∨ c.toNat = 8 ∨ c.toNat = 12 then .inl c
  else if isEscaped c then .inr c.toNat
  else .inl c

theorem isEscaped_iff (c : Char) : isEscaped c = true ↔ c.toNat < 0x20 ∨ c = '<' ∨ c = '>' ∨ c = '&'
    ∨ c.toNat = 0x2028 ∨ c.toNat = 0x2029 := by
  simp [isEscaped, or_assoc]

theorem toNat_lt_of_isEscaped (h : isEscaped c = true) : c.toNat < 0xD800 := by
  rw [isEscaped_iff] at h
  rcases h with h | rfl | rfl | rfl | h | h
  · omega
  · decide
  · decide
  · decide
  · omega
  · omega

theorem value_hex4 (h : n < 65536) (rest : List Char) : parseUnits ('\\' :: 'u' :: hex4 n ++
    rest) = (parseUnits rest).map fun (units, rest) => (.inr n :: units, rest) := by
  have hn : 4096 * (n / 4096 % 16) + 256 * (n / 256 % 16) + 16 * (n / 16 % 16) + n % 16 = n := by
    omega
  simp only [hex4, List.cons_append, List.nil_append, parseUnits,
    Hex.value_digit (show n / 4096 % 16 < 16 by omega),
    Hex.value_digit (show n / 256 % 16 < 16 by omega),
    Hex.value_digit (show n / 16 % 16 < 16 by omega),
    Hex.value_digit (show n % 16 < 16 by omega), Option.bind_eq_bind, Option.bind_some, hn]
  cases parseUnits rest <;> rfl

theorem parseUnits_plain (hquote : c ≠ '"') (hslash : c ≠ '\\')
    (hcontrol : ¬ c.toNat < 0x20) (rest : List Char) : parseUnits (c :: rest) =
      (parseUnits rest).map fun (units, rest) => (.inl c :: units, rest) := by
  rw [parseUnits]
  · rw [if_neg hcontrol]
    cases parseUnits rest <;> rfl
  · exact hquote
  · exact fun _ _ _ _ _ h _ => hslash h
  · exact fun _ _ h _ => hslash h
  · exact fun h _ => hslash h

theorem parseUnits_short (h : shortEscape e = some c) (rest : List Char) : parseUnits
    ('\\' :: e :: rest) = (parseUnits rest).map fun (units, rest) => (.inl c :: units, rest) := by
  rw [parseUnits]
  · rw [h]
    cases parseUnits rest <;> rfl
  · rintro _ _ _ _ _ rfl
    simp [shortEscape] at h

theorem parseUnits_escapeChar (c : Char) (rest : List Char) : parseUnits (escapeChar c ++ rest) =
    (parseUnits rest).map fun (units, rest) => (unitOf c :: units, rest) := by
  by_cases hshort : c = '"' ∨ c = '\\' ∨ c = '\n' ∨ c = '\r' ∨ c = '\t' ∨ c.toNat = 8 ∨ c.toNat = 12
  · have hunit : unitOf c = .inl c := by rw [unitOf, if_pos hshort]
    rw [hunit]
    rcases hshort with rfl | rfl | rfl | rfl | rfl | h | h
    · exact parseUnits_short (e := '"') rfl rest
    · exact parseUnits_short (e := '\\') rfl rest
    · exact parseUnits_short (e := 'n') rfl rest
    · exact parseUnits_short (e := 'r') rfl rest
    · exact parseUnits_short (e := 't') rfl rest
    · obtain rfl : c = Char.ofNat 8 := by rw [← h, Char.ofNat_toNat]
      exact parseUnits_short (e := 'b') rfl rest
    · obtain rfl : c = Char.ofNat 12 := by rw [← h, Char.ofNat_toNat]
      exact parseUnits_short (e := 'f') rfl rest
  · have hunit : unitOf c = if isEscaped c then .inr c.toNat else .inl c := by
      rw [unitOf, if_neg hshort]
    have hchar : escapeChar c = if isEscaped c then '\\' :: 'u' :: hex4 c.toNat else [c] := by
      push Not at hshort
      obtain ⟨h1, h2, h3, h4, h5, h6, h7⟩ := hshort
      simp [escapeChar, h1, h2, h3, h4, h5, h6, h7]
    rw [hunit, hchar]
    push Not at hshort
    by_cases hesc : isEscaped c = true
    · rw [if_pos hesc, if_pos hesc]
      exact value_hex4 (by have := toNat_lt_of_isEscaped hesc; omega) rest
    · rw [if_neg hesc, if_neg hesc]
      refine parseUnits_plain hshort.1 hshort.2.1 (fun hlt => hesc ?_) rest
      rw [isEscaped_iff]
      exact Or.inl hlt

/-- A writer of strings: the text that stands for a character, and the code unit that the parser
makes of it. -/
structure Escaping where
  escape : Char → List Char
  unit : Char → Char ⊕ ℕ
  parse : ∀ c rest, parseUnits (escape c ++ rest) =
    (parseUnits rest).map fun (units, rest) => (unit c :: units, rest)
  stands : ∀ c, unit c = .inl c ∨ (unit c = .inr c.toNat ∧ c.toNat < 0xD800)

namespace Escaping

variable (w : Escaping)

theorem parseUnits_escape (text rest : List Char) :
    parseUnits (text.flatMap w.escape ++ '"' :: rest) = some (text.map w.unit, rest) := by
  induction text with
  | nil => rfl
  | cons c text ih =>
    rw [List.flatMap_cons, List.append_assoc, w.parse, ih]
    rfl

theorem decodeUnits_map_unit (text : List Char) : decodeUnits (text.map w.unit) = text := by
  have hunit : ∀ c : Char, c.toNat < 0xD800 → unitChar c.toNat = c := by
    intro c hc
    rw [unitChar, if_neg (by omega), Char.ofNat_toNat]
  induction text with
  | nil => rfl
  | cons c text ih =>
    rcases w.stands c with h | ⟨h, hlt⟩
    · rw [List.map_cons, h, decodeUnits, ih]
    · rw [List.map_cons, h]
      -- an escaped character is no surrogate, so it forms no pair with the next one
      cases text with
      | nil => rw [List.map_nil, decodeUnits, hunit c hlt]
      | cons d text =>
        rw [List.map_cons] at ih ⊢
        rcases w.stands d with hd | ⟨hd, hdlt⟩
        · rw [hd, decodeUnits] at ih
          rw [hd, decodeUnits, hunit c hlt, ih]
        · rw [hd] at ih
          rw [hd, decodeUnits, if_neg (by omega), hunit c hlt, ih]

theorem parseString_escape (s : String) (rest : List Char) :
    parseString (s.toList.flatMap w.escape ++ '"' :: rest) = some (s, rest) := by
  rw [parseString, w.parseUnits_escape]
  simp [w.decodeUnits_map_unit, String.ofList_toList]

end Escaping

/-- The writer of `json.Marshal`. -/
def goEscaping : Escaping where
  escape := escapeChar
  unit := unitOf
  parse := parseUnits_escapeChar
  stands := by
    intro c
    unfold unitOf
    split_ifs with _ hesc
    · exact Or.inl rfl
    · exact Or.inr ⟨rfl, toNat_lt_of_isEscaped hesc⟩
    · exact Or.inl rfl

theorem parseString_quote (s : String) (rest : List Char) :
    parseString (s.toList.flatMap escapeChar ++ '"' :: rest) = some (s, rest) :=
  goEscaping.parseString_escape s rest

/-! ## Reading back rendered values -/

/-- The input after a number must not continue the number. -/
def Delimited (rest : List Char) : Prop := ∀ c ∈ rest.head?, isNumberChar c = false

mutual

/-- Every number of the value is a literal of the grammar. -/
def Valid : Json → Prop
  | null => True
  | bool _ => True
  | num literal => validNumber literal = true ∧ ∀ c ∈ literal, isNumberChar c = true
  | str _ => True
  | arr items => ValidItems items
  | obj members => ValidMembers members

def ValidItems : List Json → Prop
  | [] => True
  | item :: rest => item.Valid ∧ ValidItems rest

def ValidMembers : List (String × Json) → Prop
  | [] => True
  | (_, value) :: rest => value.Valid ∧ ValidMembers rest

end

mutual

/-- The fuel that parsing a rendered value takes. -/
def size : Json → ℕ
  | null => 1
  | bool _ => 1
  | num _ => 1
  | str _ => 1
  | arr items => 1 + sizeItems items
  | obj members => 1 + sizeMembers members

def sizeItems : List Json → ℕ
  | [] => 0
  | item :: rest => 1 + item.size + sizeItems rest

def sizeMembers : List (String × Json) → ℕ
  | [] => 0
  | (_, value) :: rest => 1 + value.size + sizeMembers rest

end

theorem skipSpace_cons (h : isSpace c = false) (rest : List Char) :
    skipSpace (c :: rest) = c :: rest := by
  simp [skipSpace, h]

theorem isDigit_of_le (h : '1' ≤ c ∧ c ≤ '9') : c.isDigit = true := by
  obtain ⟨hlo, hhi⟩ := h
  rw [Char.le_def, UInt32.le_iff_toNat_le] at hlo hhi
  simp only [Char.isDigit, ge_iff_le, Bool.and_eq_true, decide_eq_true_eq,
    UInt32.le_iff_toNat_le]
  exact ⟨le_trans (by decide) hlo, hhi⟩

theorem validNumber_head (h : validNumber literal = true) :
    ∃ c rest, literal = c :: rest ∧ (c = '-' ∨ c.isDigit = true) := by
  cases literal with
  | nil => simp [validNumber] at h
  | cons c rest =>
    refine ⟨c, rest, rfl, ?_⟩
    by_cases hminus : c = '-'
    · exact Or.inl hminus
    · have hlit : (if (c :: rest).head? = some '-' then (c :: rest).tail else c :: rest) =
          c :: rest := by simp [hminus]
      rw [validNumber, hlit] at h
      by_cases hzero : c = '0'
      · subst hzero
        exact Or.inr (by decide)
      · simp only [hzero, if_false, Bool.and_eq_true, decide_eq_true_eq] at h
        exact Or.inr (isDigit_of_le h.1)

/-- No number starts like white space or like another value. -/
theorem numberHead_notMem (h : c = '-' ∨ c.isDigit = true) :
    c ∉ [' ', '\t', '\n', '\r', '{', '[', '"', 'n', 't', 'f', ']'] := by
  intro hmem
  fin_cases hmem <;> exact absurd h (by decide)

theorem parseNumber_literal (hvalid : validNumber literal = true)
    (hchars : ∀ c ∈ literal, isNumberChar c = true) (hrest : Delimited rest) :
    parseNumber (literal ++ rest) = some (.num literal, rest) := by
  have htake : rest.takeWhile isNumberChar = [] ∧ rest.dropWhile isNumberChar = rest := by
    cases rest with
    | nil => simp
    | cons c rest =>
      have hc : isNumberChar c = false := hrest c (by simp)
      simp [hc]
  rw [parseNumber, List.takeWhile_append_of_pos hchars, List.dropWhile_append_of_pos hchars,
    htake.1, htake.2, List.append_nil, if_pos hvalid]

theorem parseValue_number (fuel : ℕ) (hvalid : validNumber literal =
    true) (hchars : ∀ c ∈ literal, isNumberChar c = true) (hrest : Delimited rest) : parseValue
    (fuel + 1) (literal ++ rest) = some (.num literal, rest) := by
  rw [← parseNumber_literal hvalid hchars hrest]
  obtain ⟨c, tail, rfl, hc⟩ := validNumber_head hvalid
  have hother := numberHead_notMem hc
  simp only [List.mem_cons, not_or] at hother
  rw [List.cons_append, parseValue, skipSpace_cons (by simp [isSpace, hother])]
  split
  all_goals simp_all

theorem head_render (j : Json) (h : j.Valid) :
    ∃ c tail, render j = c :: tail ∧ isSpace c = false ∧ c ≠ ']' := by
  cases j with
  | null => exact ⟨'n', _, by rw [render], by decide, by decide⟩
  | bool b =>
    cases b with
    | true => exact ⟨'t', _, by rw [render], by decide, by decide⟩
    | false => exact ⟨'f', _, by rw [render], by decide, by decide⟩
  | num literal =>
    obtain ⟨c, tail, rfl, hc⟩ := validNumber_head h.1
    have hother := numberHead_notMem hc
    simp only [List.mem_cons, not_or] at hother
    exact ⟨c, tail, by rw [render], by simp [isSpace, hother], by simp [hother]⟩
  | str s => exact ⟨'"', _, by rw [render, quote]; rfl, by decide, by decide⟩
  | arr items => exact ⟨'[', _, by rw [render]; rfl, by decide, by decide⟩
  | obj members => exact ⟨'{', _, by rw [render]; rfl, by decide, by decide⟩

theorem head_renderItems (items : List Json) (hne : items ≠ []) (h : ValidItems items) :
    ∃ c tail, renderItems items = c :: tail ∧ isSpace c = false ∧ c ≠ ']' := by
  cases items with
  | nil => exact absurd rfl hne
  | cons item rest =>
    obtain ⟨c, tail, hc, hspace, hclose⟩ := head_render item h.1
    cases rest with
    | nil => exact ⟨c, tail, by rw [renderItems, hc], hspace, hclose⟩
    | cons next rest => exact ⟨c, _, by rw [renderItems, hc]; rfl, hspace, hclose⟩

theorem head_renderMembers (members : List (String × Json)) (hne : members ≠ []) :
    ∃ tail, renderMembers members = '"' :: tail := by
  cases members with
  | nil => exact absurd rfl hne
  | cons member rest =>
    obtain ⟨key, value⟩ := member
    cases rest with
    | nil | cons => exact ⟨_, by rw [renderMembers, quote]; rfl⟩

theorem delimited_cons (h : isNumberChar c = false) (rest : List Char) : Delimited (c :: rest) := by
  intro d hd
  obtain rfl : c = d := by simpa using hd
  exact h

/-- The last member of an object. -/
theorem parseMembers_last (hread : parseValue fuel (text ++ '}' :: rest) = some (value, '}' :: rest)) :
    parseMembers (fuel + 1) (quote key ++ ':' :: text ++ '}' :: rest) =
      some ([(key, value)], rest) := by
  rw [quote, parseMembers]
  simp only [List.cons_append, List.append_assoc, List.nil_append,
    skipSpace_cons (show isSpace '"' = false by decide), parseString_quote,
    skipSpace_cons (show isSpace ':' = false by decide), Option.bind_eq_bind,
    Option.bind_some, hread, skipSpace_cons (show isSpace '}' = false by decide)]
  rfl

/-- A member that another one follows. -/
theorem parseMembers_next
    (hread : parseValue fuel (text ++ ',' :: more) = some (value, ',' :: more))
    (htail : parseMembers fuel more = some (members, rest)) :
    parseMembers (fuel + 1) (quote key ++ ':' :: text ++ ',' :: more) =
      some ((key, value) :: members, rest) := by
  rw [quote, parseMembers]
  simp only [List.cons_append, List.append_assoc, List.nil_append,
    skipSpace_cons (show isSpace '"' = false by decide), parseString_quote,
    skipSpace_cons (show isSpace ':' = false by decide), Option.bind_eq_bind,
    Option.bind_some, hread, skipSpace_cons (show isSpace ',' = false by decide), htail]
  rfl

theorem parseValue_object (fuel : ℕ) (tail : List Char) :
    parseValue (fuel + 1) ('{' :: '"' :: tail) =
      (parseMembers fuel ('"' :: tail)).map fun (members, rest) => (.obj members, rest) := by
  rw [parseValue, skipSpace_cons (by decide)]
  simp only [skipSpace_cons (show isSpace '"' = false by decide)]
  rfl

mutual

/-- A rendered value is read back, with what follows it left over. The induction is on the
value; the fuel only has to cover its `size`. -/
theorem parseValue_render : ∀ (j : Json) (fuel : ℕ) (rest : List Char), j.Valid →
    j.size ≤ fuel → Delimited rest → parseValue fuel (render j ++ rest) = some (j, rest)
  | j, 0, _, _, h, _ => by cases j <;> simp [size] at h
  | null, fuel + 1, rest, _, _, _ => by rw [render]; rfl
  | bool true, fuel + 1, rest, _, _, _ => by rw [render]; rfl
  | bool false, fuel + 1, rest, _, _, _ => by rw [render]; rfl
  | num literal, fuel + 1, rest, hvalid, _, hrest => by
    rw [render]
    exact parseValue_number fuel hvalid.1 hvalid.2 hrest
  | str s, fuel + 1, rest, _, _, _ => by
    rw [render, quote]
    simp only [List.cons_append, List.append_assoc, List.nil_append]
    rw [parseValue, skipSpace_cons (by decide)]
    simp [parseString_quote]
  | arr [], fuel + 1, rest, _, _, _ => by rw [render, renderItems]; rfl
  | arr (item :: items), fuel + 1, rest, hvalid, hsize, _ => by
    rw [Valid] at hvalid
    have hsize' : sizeItems (item :: items) ≤ fuel := by
      rw [size] at hsize
      omega
    have hread := parseItems_render (item :: items) fuel rest (by simp) hvalid hsize'
    obtain ⟨c, tail, hc, hspace, hclose⟩ := head_renderItems (item :: items) (by simp) hvalid
    rw [hc, List.cons_append] at hread
    rw [render, hc]
    simp only [List.cons_append, List.append_assoc, List.nil_append]
    rw [parseValue, skipSpace_cons (by decide)]
    simp only [skipSpace_cons hspace]
    split
    · rename_i h
      simp only [List.cons.injEq] at h
      exact absurd h.1 hclose
    · rw [hread]
      rfl
  | obj [], fuel + 1, rest, _, _, _ => by rw [render, renderMembers]; rfl
  | obj (member :: members), fuel + 1, rest, hvalid, hsize, _ => by
    rw [Valid] at hvalid
    have hsize' : sizeMembers (member :: members) ≤ fuel := by
      rw [size] at hsize
      omega
    have hread := parseMembers_render (member :: members) fuel rest (by simp) hvalid hsize'
    obtain ⟨tail, hc⟩ := head_renderMembers (member :: members) (by simp)
    rw [hc, List.cons_append] at hread
    rw [render, hc]
    simp only [List.cons_append, List.append_assoc, List.nil_append]
    rw [parseValue_object, hread]
    rfl

theorem parseItems_render : ∀ (items : List Json) (fuel : ℕ) (rest : List Char), items ≠ [] →
    ValidItems items → sizeItems items ≤ fuel →
    parseItems fuel (renderItems items ++ ']' :: rest) = some (items, rest)
  | [], _, _, hne, _, _ => absurd rfl hne
  | item :: items, 0, _, _, _, h => by simp [sizeItems] at h
  | [item], fuel + 1, rest, _, hvalid, hsize => by
    rw [ValidItems] at hvalid
    rw [sizeItems] at hsize
    have hread := parseValue_render item fuel (']' :: rest) hvalid.1 (by omega)
      (delimited_cons (by decide) _)
    rw [renderItems, parseItems, hread]
    rfl
  | item :: next :: items, fuel + 1, rest, _, hvalid, hsize => by
    rw [ValidItems] at hvalid
    rw [sizeItems] at hsize
    have hread := parseValue_render item fuel
      (',' :: renderItems (next :: items) ++ ']' :: rest) hvalid.1 (by omega)
      (delimited_cons (by decide) _)
    have htail := parseItems_render (next :: items) fuel rest (by simp) hvalid.2 (by omega)
    rw [renderItems, parseItems, List.append_assoc, hread]
    simp only [List.cons_append, skipSpace_cons (show isSpace ',' = false by decide),
      Option.bind_eq_bind, Option.bind_some, htail]
    rfl

theorem parseMembers_render : ∀ (members : List (String × Json)) (fuel : ℕ) (rest : List Char),
    members ≠ [] → ValidMembers members → sizeMembers members ≤ fuel →
    parseMembers fuel (renderMembers members ++ '}' :: rest) = some (members, rest)
  | [], _, _, hne, _, _ => absurd rfl hne
  | member :: members, 0, _, _, _, h => by simp [sizeMembers] at h
  | [(key, value)], fuel + 1, rest, _, hvalid, hsize => by
    rw [ValidMembers] at hvalid
    rw [sizeMembers] at hsize
    have hread := parseValue_render value fuel ('}' :: rest) hvalid.1 (by omega)
      (delimited_cons (by decide) _)
    rw [renderMembers]
    exact parseMembers_last hread
  | (key, value) :: next :: members, fuel + 1, rest, _, hvalid, hsize => by
    rw [ValidMembers] at hvalid
    rw [sizeMembers] at hsize
    have hread := parseValue_render value fuel
      (',' :: renderMembers (next :: members) ++ '}' :: rest) hvalid.1 (by omega)
      (delimited_cons (by decide) _)
    have htail := parseMembers_render (next :: members) fuel rest (by simp) hvalid.2 (by omega)
    rw [renderMembers, List.append_assoc]
    exact parseMembers_next hread htail

end

mutual

theorem size_le_length : ∀ j : Json, j.Valid → j.size ≤ (render j).length
  | null, _ => by simp [size, render]
  | bool true, _ => by simp [size, render]
  | bool false, _ => by simp [size, render]
  | num literal, h => by
    obtain ⟨c, tail, rfl, -⟩ := validNumber_head h.1
    simp [size, render]
  | str s, _ => by simp [size, render, quote]
  | arr items, h => by
    rw [Valid] at h
    have := sizeItems_le_length items h
    simp only [size, render, List.length_cons, List.length_append, List.length_nil]
    omega
  | obj members, h => by
    rw [Valid] at h
    have := sizeMembers_le_length members h
    simp only [size, render, List.length_cons, List.length_append, List.length_nil]
    omega

theorem sizeItems_le_length : ∀ items : List Json, ValidItems items →
    sizeItems items ≤ (renderItems items).length + 1
  | [], _ => by simp [sizeItems]
  | [item], h => by
    rw [ValidItems] at h
    have := size_le_length item h.1
    simp only [sizeItems, renderItems]
    omega
  | item :: next :: items, h => by
    rw [ValidItems] at h
    have hitem := size_le_length item h.1
    have htail := sizeItems_le_length (next :: items) h.2
    rw [sizeItems, renderItems, List.length_append, List.length_cons]
    omega

theorem sizeMembers_le_length : ∀ members : List (String × Json), ValidMembers members →
    sizeMembers members ≤ (renderMembers members).length + 1
  | [], _ => by simp [sizeMembers]
  | [(key, value)], h => by
    rw [ValidMembers] at h
    have := size_le_length value h.1
    simp only [sizeMembers, renderMembers, List.length_append, List.length_cons]
    omega
  | (key, value) :: next :: members, h => by
    rw [ValidMembers] at h
    have hvalue := size_le_length value h.1
    have htail := sizeMembers_le_length (next :: members) h.2
    rw [sizeMembers, renderMembers]
    simp only [List.length_append, List.length_cons]
    omega

end

/-- The parser reads back every rendered value, followed by any white space. -/
theorem parse_render (hvalid : j.Valid)
    (hspace : ∀ c ∈ space, isSpace c = true) : parse (render j ++ space) = some j := by
  have hdelimited : Delimited space := by
    intro c hc
    have hs := hspace c (List.mem_of_mem_head? hc)
    simp only [isSpace, Bool.or_eq_true, decide_eq_true_eq] at hs
    rcases hs with ((rfl | rfl) | rfl) | rfl <;> decide
  have hfuel : j.size ≤ (render j ++ space).length + 1 := by
    have := size_le_length j hvalid
    rw [List.length_append]
    omega
  have hskip : skipSpace space = [] := List.dropWhile_eq_nil_iff.mpr hspace
  rw [parse, parseValue_render j _ space hvalid hfuel hdelimited]
  simp [hskip]

/-! ## Texts of other writers

A program that writes JSON by hand need not escape what `json.Marshal` escapes. Its texts are
described piece by piece: what the parser makes of the text of one value, and the text of an object
with such members. -/

/-- The parser takes a text for a value, whatever comes after it. -/
def Reads (text : List Char) (value : Json) : Prop :=
  ∀ fuel rest, Delimited rest → parseValue (fuel + 1) (text ++ rest) = some (value, rest)

/-- The text of a string. -/
def Escaping.quote (w : Escaping) (s : String) : List Char :=
  '"' :: s.toList.flatMap w.escape ++ ['"']

theorem Escaping.reads_quote (w : Escaping) (s : String) : Reads (w.quote s) (.str s) := by
  intro fuel rest _
  rw [Escaping.quote]
  simp only [List.cons_append, List.append_assoc, List.nil_append]
  rw [parseValue, skipSpace_cons (by decide)]
  simp [w.parseString_escape]

theorem reads_num (h : (num literal).Valid) : Reads literal (.num literal) :=
  fun fuel _ hrest => parseValue_number fuel h.1 h.2 hrest

/-- The members of an object from the texts of their values. -/
def joinMembers : List (String × List Char) → List Char
  | [] => []
  | [(key, text)] => quote key ++ ':' :: text
  | (key, text) :: next :: rest => quote key ++ ':' :: text ++ ',' :: joinMembers (next :: rest)

theorem parseMembers_join (members : List (String × List Char × Json)) (fuel : ℕ) (rest : List Char)
    (hne : members ≠ []) (hreads : ∀ m ∈ members, Reads m.2.1 m.2.2) (hfuel : 2 * members.length ≤
    fuel) : parseMembers fuel (joinMembers (members.map fun m => (m.1, m.2.1)) ++ '}' :: rest) =
    some (members.map fun m => (m.1, m.2.2), rest) := by
  induction members generalizing fuel with
  | nil => exact absurd rfl hne
  | cons member members ih =>
    obtain ⟨key, text, value⟩ := member
    obtain ⟨fuel, rfl⟩ : ∃ n, fuel = n + 2 := ⟨fuel - 2, by rw [List.length_cons] at hfuel; omega⟩
    have hvalue : Reads text value := hreads _ (List.mem_cons_self ..)
    cases members with
    | nil =>
      have hread := hvalue fuel ('}' :: rest) (delimited_cons (by decide) _)
      rw [List.map_cons, List.map_nil, joinMembers]
      exact parseMembers_last hread
    | cons next members =>
      have htail := ih (fuel + 1) (by simp)
        (fun m hm => hreads m (List.mem_cons_of_mem _ hm))
        (by simp only [List.length_cons] at hfuel ⊢; omega)
      have hread := hvalue fuel (',' :: joinMembers ((next :: members).map
        fun m => (m.1, m.2.1)) ++ '}' :: rest) (delimited_cons (by decide) _)
      rw [List.map_cons, List.map_cons, joinMembers, List.append_assoc]
      exact parseMembers_next hread htail

theorem head_joinMembers (hne : members ≠ []) : ∃ tail, joinMembers members = '"' :: tail := by
  match members with
  | [] => exact absurd rfl hne
  | [(key, text)] => exact ⟨_, by rw [joinMembers, GoLib.Json.quote]; rfl⟩
  | (key, text) :: next :: rest => exact ⟨_, by rw [joinMembers, GoLib.Json.quote]; rfl⟩

theorem length_le_joinMembers (members : List (String × List Char)) :
    3 * members.length ≤ (joinMembers members).length := by
  match members with
  | [] => exact Nat.le_refl 0
  | [(key, text)] =>
    simp only [joinMembers, GoLib.Json.quote, List.length_append, List.length_cons,
      List.length_nil]
    omega
  | (key, text) :: next :: rest =>
    have ih := length_le_joinMembers (next :: rest)
    simp only [joinMembers, GoLib.Json.quote, List.length_append, List.length_cons] at ih ⊢
    omega

theorem parse_join (members : List (String × List Char × Json)) (hne : members ≠ []) (hreads : ∀ m ∈
    members, Reads m.2.1 m.2.2) : parse ('{' :: joinMembers (members.map fun m => (m.1, m.2.1)) ++
    ['}']) = some (.obj (members.map fun m => (m.1, m.2.2))) := by
  have hlength := length_le_joinMembers (members.map fun m => (m.1, m.2.1))
  rw [List.length_map] at hlength
  have hread := parseMembers_join members
    ('{' :: joinMembers (members.map fun m => (m.1, m.2.1)) ++ ['}']).length [] hne hreads
    (by simp only [List.length_append, List.length_cons]; omega)
  obtain ⟨tail, htail⟩ := head_joinMembers
    (show (members.map fun m => (m.1, m.2.1)) ≠ [] by simpa using hne)
  rw [htail] at hread ⊢
  simp only [List.cons_append] at hread ⊢
  rw [parse, parseValue_object, hread]
  rfl

end Json

end GoLib
