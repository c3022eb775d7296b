import Mathlib

/-!
# Text encodings of byte strings

The byte-to-text encodings that the Go standard library offers and the gateway uses: UTF-8,
lower-case hexadecimal (`encoding/hex`) and unpadded URL-safe base64
(`base64.RawURLEncoding`). Text is a list of characters, a byte string a list of `UInt8`.

Main results:

- `Hex.decode_encode` and `Base64.decode_encode`: both decoders invert their encoders;
- `Hex.length_encode` and `Base64.length_encode`: the lengths of the encoded texts.
-/

namespace GoLib

/-! ## UTF-8 -/

/-- The UTF-8 bytes of a text. -/
def utf8 (text : List Char) : List UInt8 := text.flatMap String.utf8EncodeChar

/-- The number of bytes of a text, the `len` of a Go string. -/
def byteLength (text : List Char) : ℕ := (utf8 text).length

@[simp]
theorem byteLength_nil : byteLength [] = 0 := rfl

@[simp]
theorem byteLength_cons (c : Char) (text : List Char) :
    byteLength (c :: text) = c.utf8Size + byteLength text := by
  simp [byteLength, utf8, String.length_utf8EncodeChar]

@[simp]
theorem byteLength_append (left right : List Char) :
    byteLength (left ++ right) = byteLength left + byteLength right := by
  simp [byteLength, utf8]

theorem utf8Size_of_lt {c : Char} (h : c.toNat < 128) : c.utf8Size = 1 := by
  have hle : c.val ≤ 0x7F := by
    rw [UInt32.le_iff_toNat_le]
    have : c.val.toNat = c.toNat := rfl
    simp only [UInt32.reduceToNat]
    omega
  simp [Char.utf8Size, hle]

theorem byteLength_of_ascii {text : List Char} (h : ∀ c ∈ text, c.toNat < 128) :
    byteLength text = text.length := by
  induction text with
  | nil => rfl
  | cons c text ih => grind [byteLength_cons, utf8Size_of_lt, Nat.add_comm]

theorem length_le_byteLength (text : List Char) : text.length ≤ byteLength text := by
  induction text with
  | nil => simp
  | cons c text ih =>
    have := c.utf8Size_pos
    simp only [List.length_cons, byteLength_cons]
    omega

/-! ## Hexadecimal -/

namespace Hex

/-- The digit of `encoding/hex` for a value below sixteen. -/
def digit (value : ℕ) : Char := Nat.digitChar value

/-- The value of a hexadecimal digit, upper or lower case. -/
def value (c : Char) : Option ℕ :=
  if '0' ≤ c ∧ c ≤ '9' then some (c.toNat - '0'.toNat)
  else if 'a' ≤ c ∧ c ≤ 'f' then some (c.toNat - 'a'.toNat + 10)
  else if 'A' ≤ c ∧ c ≤ 'F' then some (c.toNat - 'A'.toNat + 10)
  else none

/-- `hex.EncodeToString`. -/
def encode : List UInt8 → List Char
  | [] => []
  | byte :: rest => digit (byte.toNat / 16) :: digit (byte.toNat % 16) :: encode rest

/-- `hex.DecodeString`: an odd number of digits or a foreign character is an error. -/
def decode : List Char → Option (List UInt8)
  | [] => some []
  | [_] => none
  | high :: low :: rest => do
    let h ← value high
    let l ← value low
    let bytes ← decode rest
    return UInt8.ofNat (16 * h + l) :: bytes

theorem value_digit (h : n < 16) : value (digit n) = some n := by
  interval_cases n <;> rfl

/-- Decoding inverts encoding. -/
theorem decode_encode (bytes : List UInt8) : decode (encode bytes) = some bytes := by
  induction bytes with
  | nil => rfl
  | cons byte rest ih =>
    have hlt : byte.toNat < 256 := byte.toNat_lt
    have hbyte : 16 * (byte.toNat / 16) + byte.toNat % 16 = byte.toNat := Nat.div_add_mod _ _
    simp only [encode, decode, value_digit (show byte.toNat / 16 < 16 by omega),
      value_digit (show byte.toNat % 16 < 16 by omega), ih, Option.bind_eq_bind,
      Option.bind_some, hbyte, UInt8.ofNat_toNat]
    rfl

@[simp]
theorem length_encode (bytes : List UInt8) : (encode bytes).length = 2 * bytes.length := by
  induction bytes with
  | nil => rfl
  | cons byte rest ih => simp only [encode, List.length_cons, ih]; omega

/-- The characters that `encode` writes. -/
def IsDigit (c : Char) : Prop := ∃ n < 16, c = digit n

theorem isDigit_of_mem_encode (h : c ∈ encode bytes) : IsDigit c := by
  induction bytes with
  | nil => simp [encode] at h
  | cons byte rest ih =>
    have hlt : byte.toNat < 256 := byte.toNat_lt
    simp only [encode, List.mem_cons] at h
    rcases h with rfl | rfl | h
    · exact ⟨_, by omega, rfl⟩
    · exact ⟨_, by omega, rfl⟩
    · exact ih h

theorem value_isSome_of_decode : ∀ {text : List Char} {bytes : List UInt8},
    decode text = some bytes → ∀ c ∈ text, (value c).isSome = true
  | [], _, _ => by simp
  | [_], _, h => by simp [decode] at h
  | high :: low :: rest, bytes, h => by
    simp only [decode, Option.bind_eq_bind, Option.bind_eq_some_iff] at h
    obtain ⟨hi, hhigh, lo, hlow, tail, htail, -⟩ := h
    simp only [List.mem_cons, forall_eq_or_imp]
    exact ⟨by simp [hhigh], by simp [hlow], value_isSome_of_decode htail⟩

end Hex

/-! ## Unpadded URL-safe base64 -/

namespace Base64

/-- The alphabet of `base64.RawURLEncoding`. -/
def alphabet : List Char :=
  "ABCDEFGHIJKLMNOPQRSTUVWXYZabcdefghijklmnopqrstuvwxyz0123456789-_".toList

/-- The symbol for a six-bit value. -/
def symbol (value : ℕ) : Char := alphabet.getD value 'A'

/-- The six-bit value of a symbol. -/
def value (c : Char) : Option ℕ := alphabet.idxOf? c

/-- `base64.RawURLEncoding.EncodeToString`. -/
def encode : List UInt8 → List Char
  | [] => []
  | [a] => [symbol (a.toNat / 4), symbol (a.toNat % 4 * 16)]
  | [a, b] =>
    [symbol (a.toNat / 4), symbol (a.toNat % 4 * 16 + b.toNat / 16),
      symbol (b.toNat % 16 * 4)]
  | a :: b :: c :: rest =>
    symbol (a.toNat / 4) :: symbol (a.toNat % 4 * 16 + b.toNat / 16) ::
      symbol (b.toNat % 16 * 4 + c.toNat / 64) :: symbol (c.toNat % 64) :: encode rest

/-- The bytes of a list of six-bit values. A single left-over value is an error, and the unused
low bits of the last value are dropped without a check, as outside strict mode. -/
def decodeValues : List ℕ → Option (List UInt8)
  | [] => some []
  | [_] => none
  | [v, w] => some [UInt8.ofNat (v * 4 + w / 16)]
  | [v, w, x] => some [UInt8.ofNat (v * 4 + w / 16), UInt8.ofNat (w % 16 * 16 + x / 4)]
  | v :: w :: x :: y :: rest => do
    let bytes ← decodeValues rest
    return UInt8.ofNat (v * 4 + w / 16) :: UInt8.ofNat (w % 16 * 16 + x / 4) ::
      UInt8.ofNat (x % 4 * 64 + y) :: bytes

/-- `base64.RawURLEncoding.DecodeString`. Line feeds and carriage returns are skipped. -/
def decode (text : List Char) : Option (List UInt8) := do
  let values ← (text.filter fun c => c ≠ '\n' ∧ c ≠ '\r').mapM value
  decodeValues values

theorem value_symbol (h : n < 64) : value (symbol n) = some n := by
  have : ∀ m : Fin 64, value (symbol m) = some (m : ℕ) := by decide +kernel
  exact this ⟨n, h⟩

/-- The characters of the alphabet. -/
def IsSymbol (c : Char) : Prop := ∃ n < 64, c = symbol n

theorem isSymbol_ne_newline (h : IsSymbol c) : c ≠ '\n' ∧ c ≠ '\r' := by
  have : ∀ m : Fin 64, symbol m ≠ '\n' ∧ symbol m ≠ '\r' := by decide +kernel
  obtain ⟨n, hn, rfl⟩ := h
  exact this ⟨n, hn⟩

/-- The six-bit values that `encode` writes the symbols of. -/
def values : List UInt8 → List ℕ
  | [] => []
  | [a] => [a.toNat / 4, a.toNat % 4 * 16]
  | [a, b] => [a.toNat / 4, a.toNat % 4 * 16 + b.toNat / 16, b.toNat % 16 * 4]
  | a :: b :: c :: rest =>
    a.toNat / 4 :: (a.toNat % 4 * 16 + b.toNat / 16) ::
      (b.toNat % 16 * 4 + c.toNat / 64) :: c.toNat % 64 :: values rest

theorem encode_eq_map : ∀ bytes : List UInt8, encode bytes = (values bytes).map symbol
  | [] => rfl
  | [_] => rfl
  | [_, _] => rfl
  | a :: b :: c :: rest => by simp only [encode, values, List.map_cons, encode_eq_map rest]

theorem lt_of_mem_values : ∀ {bytes : List UInt8} {n : ℕ}, n ∈ values bytes → n < 64
  | [], _, h => by cases h
  | [a], n, h => by
    have := a.toNat_lt
    simp only [values, List.mem_cons, List.not_mem_nil, or_false] at h
    omega
  | [a, b], n, h => by
    have := a.toNat_lt
    have := b.toNat_lt
    simp only [values, List.mem_cons, List.not_mem_nil, or_false] at h
    omega
  | a :: b :: c :: rest, n, h => by
    have := a.toNat_lt
    have := b.toNat_lt
    have := c.toNat_lt
    simp only [values, List.mem_cons] at h
    rcases h with h | h | h | h | h
    · omega
    · omega
    · omega
    · omega
    · exact lt_of_mem_values h

theorem isSymbol_of_mem_encode (h : c ∈ encode bytes) : IsSymbol c := by
  rw [encode_eq_map] at h
  obtain ⟨n, hn, rfl⟩ := List.mem_map.mp h
  exact ⟨n, lt_of_mem_values hn, rfl⟩

theorem mapM_value_map_symbol : ∀ {digits : List ℕ}, (∀ v ∈ digits, v < 64) →
    (digits.map symbol).mapM value = some digits
  | [], _ => rfl
  | v :: rest, h => by
    have hv := value_symbol (h v List.mem_cons_self)
    have hrest := mapM_value_map_symbol fun u hu => h u (List.mem_cons_of_mem v hu)
    simp [hv, hrest]

theorem decodeValues_values : ∀ bytes : List UInt8, decodeValues (values bytes) = some bytes
  | [] => rfl
  | [a] => by
    have := a.toNat_lt
    have ha : a.toNat / 4 * 4 + a.toNat % 4 * 16 / 16 = a.toNat := by omega
    simp only [values, decodeValues, ha, UInt8.ofNat_toNat]
  | [a, b] => by
    have := a.toNat_lt
    have := b.toNat_lt
    have ha : a.toNat / 4 * 4 + (a.toNat % 4 * 16 + b.toNat / 16) / 16 = a.toNat := by omega
    have hb : (a.toNat % 4 * 16 + b.toNat / 16) % 16 * 16 + b.toNat % 16 * 4 / 4 =
        b.toNat := by omega
    simp only [values, decodeValues, ha, hb, UInt8.ofNat_toNat]
  | a :: b :: c :: rest => by
    have := a.toNat_lt
    have := b.toNat_lt
    have := c.toNat_lt
    have ha : a.toNat / 4 * 4 + (a.toNat % 4 * 16 + b.toNat / 16) / 16 = a.toNat := by omega
    have hb : (a.toNat % 4 * 16 + b.toNat / 16) % 16 * 16 +
        (b.toNat % 16 * 4 + c.toNat / 64) / 4 = b.toNat := by omega
    have hc : (b.toNat % 16 * 4 + c.toNat / 64) % 4 * 64 + c.toNat % 64 = c.toNat := by omega
    simp only [values, decodeValues, decodeValues_values rest, Option.bind_eq_bind,
      Option.bind_some, ha, hb, hc, UInt8.ofNat_toNat]
    rfl

/-- Decoding inverts encoding. -/
theorem decode_encode (bytes : List UInt8) : decode (encode bytes) = some bytes := by
  have hfilter : (encode bytes).filter (fun c => c ≠ '\n' ∧ c ≠ '\r') = encode bytes := by
    rw [List.filter_eq_self]
    intro c hc
    simpa using isSymbol_ne_newline (isSymbol_of_mem_encode hc)
  rw [decode, hfilter, encode_eq_map, mapM_value_map_symbol fun _ => lt_of_mem_values]
  exact decodeValues_values bytes

/-- Three bytes are written as four symbols. -/
theorem length_encode : ∀ bytes : List UInt8, (encode bytes).length = (bytes.length * 4 + 2) / 3
  | [] => rfl
  | [_] => by simp [encode]
  | [_, _] => by simp [encode]
  | a :: b :: c :: rest => by
    simp only [encode, List.length_cons, length_encode rest]
    omega

/-- `base64.RawURLEncoding.EncodeToString` as a string. -/
def encodeToString (bytes : List UInt8) : String := String.ofList (encode bytes)

/-- The texts that decode to a number of bytes and that encoding those bytes gives back. -/
def Canonical (value : String) (size : ℕ) : Prop :=
  ∃ decoded ∈ decode value.toList, decoded.length = size ∧ encodeToString decoded = value
deriving Decidable

theorem canonical_iff {value : String} {size : ℕ} :
    Canonical value size ↔ ∃ bytes : List UInt8, bytes.length = size ∧ encodeToString bytes = value := by
  constructor
  · rintro ⟨bytes, -, hlength, hvalue⟩
    exact ⟨bytes, hlength, hvalue⟩
  · rintro ⟨bytes, hlength, rfl⟩
    refine ⟨bytes, ?_, hlength, rfl⟩
    rw [encodeToString, String.toList_ofList, decode_encode, Option.mem_some_iff]

theorem canonical_encodeToString (bytes : List UInt8) :
    Canonical (encodeToString bytes) bytes.length := canonical_iff.mpr ⟨bytes, rfl, rfl⟩

/-! ### Texts of symbols -/

/-- The unused low bits of the last value are zero. -/
def Packed : List ℕ → Prop
  | [] => True
  | [_] => False
  | [_, w] => w % 16 = 0
  | [_, _, x] => x % 4 = 0
  | _ :: _ :: _ :: _ :: rest => Packed rest

theorem packed_of_length_two : ∀ (k : ℕ) {digits : List ℕ}, digits.length = 4 * k + 2 →
    (∀ v ∈ digits[4 * k + 1]?, v % 16 = 0) → Packed digits
  | 0, [v, w], _, hlast => hlast w rfl
  | k + 1, _ :: _ :: _ :: _ :: rest, hlength, hlast => by
    have hshort : rest.length = 4 * k + 2 := by
      simp only [List.length_cons] at hlength
      omega
    have hrest : Packed rest := packed_of_length_two k hshort hlast
    exact hrest

theorem packed_of_length_three : ∀ (k : ℕ) {digits : List ℕ}, digits.length = 4 * k + 3 →
    (∀ v ∈ digits[4 * k + 2]?, v % 4 = 0) → Packed digits
  | 0, [_, _, x], _, hlast => hlast x rfl
  | k + 1, _ :: _ :: _ :: _ :: rest, hlength, hlast => by
    have hshort : rest.length = 4 * k + 3 := by
      simp only [List.length_cons] at hlength
      omega
    have hrest : Packed rest := packed_of_length_three k hshort hlast
    exact hrest

theorem toNat_byte (h : n < 256) : (UInt8.ofNat n).toNat = n := UInt8.toNat_ofNat_of_lt' h

theorem exists_values_eq : ∀ {digits : List ℕ}, (∀ v ∈ digits, v < 64) → Packed digits →
    ∃ bytes, values bytes = digits
  | [], _, _ => ⟨[], rfl⟩
  | [_], _, h => by cases h
  | [v, w], hlt, h => by
    have hv := hlt v (by simp)
    have hw := hlt w (by simp)
    have hpacked : w % 16 = 0 := h
    refine ⟨[UInt8.ofNat (v * 4 + w / 16)], ?_⟩
    simp only [values, toNat_byte (show v * 4 + w / 16 < 256 by omega), List.cons.injEq, and_true]
    omega
  | [v, w, x], hlt, h => by
    have hv := hlt v (by simp)
    have hw := hlt w (by simp)
    have hx := hlt x (by simp)
    have hpacked : x % 4 = 0 := h
    refine ⟨[UInt8.ofNat (v * 4 + w / 16), UInt8.ofNat (w % 16 * 16 + x / 4)], ?_⟩
    simp only [values, toNat_byte (show v * 4 + w / 16 < 256 by omega),
      toNat_byte (show w % 16 * 16 + x / 4 < 256 by omega), List.cons.injEq, and_true]
    omega
  | v :: w :: x :: y :: rest, hlt, h => by
    have hv := hlt v (by simp)
    have hw := hlt w (by simp)
    have hx := hlt x (by simp)
    have hy := hlt y (by simp)
    have hsmall : ∀ u ∈ rest, u < 64 := fun u hu => hlt u (by simp [hu])
    obtain ⟨bytes, hbytes⟩ := exists_values_eq hsmall h
    refine ⟨UInt8.ofNat (v * 4 + w / 16) :: UInt8.ofNat (w % 16 * 16 + x / 4) ::
      UInt8.ofNat (x % 4 * 64 + y) :: bytes, ?_⟩
    simp only [values, toNat_byte (show v * 4 + w / 16 < 256 by omega),
      toNat_byte (show w % 16 * 16 + x / 4 < 256 by omega),
      toNat_byte (show x % 4 * 64 + y < 256 by omega), hbytes, List.cons.injEq, and_true]
    omega

end Base64

end GoLib
