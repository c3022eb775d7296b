import XiaozhiPlatform.GoLib.Encoding

/-!
# Runes

How Go reads a byte string as text: a loop over a string, and `encoding/json` on its input, decode
one rune after the other and take a byte that starts no valid rune for U+FFFD. `decodeRunes_utf8`
says that the text of a valid encoding is read back. `isSpace` is `unicode.IsSpace`, and a text is
blank when `strings.TrimSpace` leaves nothing of it.
-/

namespace GoLib

/-- `utf8.RuneError`. -/
def runeError : Char := Char.ofNat 0xFFFD

/-- The runes of a byte string. -/
def decodeRunes (bytes : List UInt8) : List Char :=
  match bytes with
  | [] => []
  | byte :: rest =>
    match (byte :: rest).toByteArray.utf8DecodeChar? 0 with
    | some c => c :: decodeRunes ((byte :: rest).drop c.utf8Size)
    | none => runeError :: decodeRunes rest
termination_by bytes.length
decreasing_by
  · have := c.utf8Size_pos
    simp only [List.length_drop, List.length_cons]
    omega
  · simp

/-- `utf8.ValidString`: no byte had to be replaced. -/
def validUTF8 (bytes : List UInt8) : Bool := utf8 (decodeRunes bytes) == bytes

theorem decodeRunes_append (c : Char) (rest : List UInt8) :
    decodeRunes (String.utf8EncodeChar c ++ rest) = c :: decodeRunes rest := by
  have hdecode : (String.utf8EncodeChar c ++ rest).toByteArray.utf8DecodeChar? 0 = some c := by
    rw [List.toByteArray_append]
    exact ByteArray.utf8DecodeChar?_utf8EncodeChar_append
  have hlength : (String.utf8EncodeChar c).length = c.utf8Size := String.length_utf8EncodeChar c
  cases hbytes : String.utf8EncodeChar c ++ rest with
  | nil =>
    have := c.utf8Size_pos
    have hzero := congrArg List.length hbytes
    rw [List.length_append, hlength, List.length_nil] at hzero
    omega
  | cons byte tail =>
    rw [decodeRunes, ← hbytes, hdecode]
    simp only [List.drop_left' hlength]

/-- The runes of an encoded text are its characters. -/
theorem decodeRunes_utf8 (text : List Char) : decodeRunes (utf8 text) = text := by
  induction text with
  | nil => rw [utf8, List.flatMap_nil, decodeRunes]
  | cons c text ih =>
    rw [utf8, List.flatMap_cons, decodeRunes_append]
    exact congrArg (c :: ·) ih

theorem utf8_decodeRunes (h : runeError ∉ decodeRunes bytes) :
    utf8 (decodeRunes bytes) = bytes := by
  fun_induction decodeRunes bytes with
  | case1 => rfl
  | case2 byte rest c hdecode ih =>
    rw [List.mem_cons, not_or] at h
    obtain ⟨tail, htail⟩ := ByteArray.exists_of_utf8DecodeChar?_eq_some hdecode
    have hbytes : byte :: rest = String.utf8EncodeChar c ++ tail.data.toList := by
      have hdata := congrArg (fun array => array.data.toList) htail
      simpa only [List.data_toByteArray, ByteArray.toList_data_append, List.toList_toArray] using hdata
    have hdrop : (byte :: rest).drop c.utf8Size = tail.data.toList := by
      rw [hbytes, List.drop_left' (String.length_utf8EncodeChar c)]
    have hrest := ih h.2
    rw [hdrop] at hrest ⊢
    rw [hbytes, utf8, List.flatMap_cons]
    exact congrArg (String.utf8EncodeChar c ++ ·) hrest
  | case3 byte rest hdecode ih => exact absurd List.mem_cons_self h

theorem utf8_append (left right : List Char) : utf8 (left ++ right) = utf8 left ++ utf8 right := by
  simp [utf8]

/-- `unicode.IsSpace`. -/
def isSpace (c : Char) : Bool :=
  c.toNat ∈ [0x09, 0x0A, 0x0B, 0x0C, 0x0D, 0x20, 0x85, 0xA0, 0x1680, 0x2028, 0x2029, 0x202F, 0x205F,
    0x3000] || (0x2000 ≤ c.toNat && c.toNat ≤ 0x200A)

/-- `strings.TrimSpace(text) == ""`. -/
def isBlank (text : List Char) : Bool := text.all isSpace

/-- `strings.TrimSpace`. -/
def trimSpace (text : List Char) : List Char := (text.dropWhile isSpace).rdropWhile isSpace

end GoLib
