import XiaozhiPlatform.CLib.Memory
import XiaozhiPlatform.GoLib.Encoding

/-!
# ASCII texts

A program in C checks a text byte by byte, and one in Go reads the same bytes as runes. Below 128 the
two agree: `text` has one character for each byte, and encoding it gives the bytes back.

The predicates on bytes are those of `ctype.h` in the C locale. `forall_byte` proves a statement
about every byte by trying them all.
-/

namespace CLib

open GoLib

/-- The character of a byte. -/
def charOf (byte : UInt8) : Char := Char.ofNat byte.toNat

/-- The characters of the bytes. -/
def text (bytes : List UInt8) : List Char := bytes.map charOf

/-- The bytes of an ASCII literal. -/
def bytesOf (literal : String) : List UInt8 := utf8 literal.toList

def isDigit (byte : UInt8) : Bool := 48 ≤ byte && byte ≤ 57

def isAlnum (byte : UInt8) : Bool :=
  isDigit byte || (65 ≤ byte && byte ≤ 90) || (97 ≤ byte && byte ≤ 122)

def isSpace (byte : UInt8) : Bool := byte = 32 || (9 ≤ byte && byte ≤ 13)

def toLower (byte : UInt8) : UInt8 := if 65 ≤ byte ∧ byte ≤ 90 then byte + 32 else byte

theorem forall_byte {p : UInt8 → Prop} (h : ∀ n : Fin 256, p (UInt8.ofNat n)) (byte : UInt8) :
    p byte := by
  have hbyte := h ⟨byte.toNat, byte.toNat_lt⟩
  rwa [UInt8.ofNat_toNat] at hbyte

theorem utf8_charOf (h : byte < 128) : String.utf8EncodeChar (charOf byte) = [byte] := by
  have hall : ∀ byte : UInt8, byte < 128 → String.utf8EncodeChar (charOf byte) = [byte] :=
    forall_byte (by decide +kernel)
  exact hall byte h

theorem utf8_text (h : ∀ byte ∈ bytes, byte < 128) : utf8 (text bytes) = bytes := by
  induction bytes with
  | nil => rfl
  | cons byte bytes ih =>
    have hrest := ih fun other hother => h other (List.mem_cons_of_mem byte hother)
    rw [text, List.map_cons, utf8, List.flatMap_cons, utf8_charOf (h byte List.mem_cons_self)]
    exact congrArg (byte :: ·) hrest

theorem le_of_mem_utf8EncodeChar (hc : 128 ≤ c.toNat)
    (h : byte ∈ String.utf8EncodeChar c) : 128 ≤ byte := by
  have hbyte : ∀ n, 128 ≤ n → n < 256 → 128 ≤ UInt8.ofNat n := by
    intro n hlow hhigh
    rw [UInt8.le_iff_toNat_le, UInt8.toNat_ofNat', Nat.mod_eq_of_lt hhigh]
    exact hlow
  have hvalue : c.val.toNat = c.toNat := rfl
  rw [String.utf8EncodeChar] at h
  simp only [hvalue] at h
  rw [if_neg (by omega)] at h
  split at h
  · grind
  split at h
  · grind
  · grind

variable {chars : List Char}

theorem zero_notMem_utf8 (h : Char.ofNat 0 ∉ chars) : 0 ∉ utf8 chars := by
  intro hzero
  obtain ⟨c, hc, hbyte⟩ := List.mem_flatMap.mp hzero
  by_cases hascii : c.toNat < 128
  · have hzeros : ∀ n < 128, 0 ∈ String.utf8EncodeChar (Char.ofNat n) → n = 0 := by decide
    have hnat := hzeros c.toNat hascii (by rwa [Char.ofNat_toNat])
    have hnul : c = Char.ofNat 0 := by rw [← hnat, Char.ofNat_toNat]
    exact h (hnul ▸ hc)
  · exact absurd (le_of_mem_utf8EncodeChar (Nat.le_of_not_lt hascii) hbyte) (by decide)

theorem utf8EncodeChar_of_lt (h : c.toNat < 128) :
    String.utf8EncodeChar c = [UInt8.ofNat c.toNat] := by
  have hall : ∀ n < 128, String.utf8EncodeChar (Char.ofNat n) = [UInt8.ofNat n] := by decide
  have hc := hall c.toNat h
  rwa [Char.ofNat_toNat] at hc

theorem forall_utf8 {p : Char → Prop} {q : UInt8 → Prop}
    (hascii : ∀ c, p c → c.toNat < 128) (hbyte : ∀ n < 128, p (Char.ofNat n) → q (UInt8.ofNat n))
    (h : ∀ c ∈ chars, p c) : ∀ byte ∈ utf8 chars, q byte := by
  intro byte hmem
  obtain ⟨c, hc, hbyteMem⟩ := List.mem_flatMap.mp hmem
  have hlt := hascii c (h c hc)
  rw [utf8EncodeChar_of_lt hlt, List.mem_singleton] at hbyteMem
  rw [hbyteMem]
  refine hbyte c.toNat hlt ?_
  rw [Char.ofNat_toNat]
  exact h c hc

theorem ascii_of_forall_utf8 (h : ∀ byte ∈ utf8 chars, byte < 128)
    (hc : c ∈ chars) : c.toNat < 128 ∧ UInt8.ofNat c.toNat ∈ utf8 chars := by
  have hbytes : ∀ byte ∈ String.utf8EncodeChar c, byte ∈ utf8 chars := fun byte hbyte =>
    List.mem_flatMap.mpr ⟨c, hc, hbyte⟩
  have hlt : c.toNat < 128 := by
    by_contra hge
    obtain ⟨byte, hbyte⟩ : ∃ byte, byte ∈ String.utf8EncodeChar c :=
      List.exists_mem_of_ne_nil _ String.utf8EncodeChar_ne_nil
    have hlow := h byte (hbytes byte hbyte)
    have hhigh := le_of_mem_utf8EncodeChar (Nat.le_of_not_lt hge) hbyte
    exact absurd hlow (UInt8.not_lt.mpr hhigh)
  refine ⟨hlt, hbytes _ ?_⟩
  rw [utf8EncodeChar_of_lt hlt]
  exact List.mem_singleton_self _

end CLib
