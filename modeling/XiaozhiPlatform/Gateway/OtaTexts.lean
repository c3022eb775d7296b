import XiaozhiPlatform.Auth.Issuer
import XiaozhiPlatform.CLib.CJsonRead
import XiaozhiPlatform.Device.OtaCore
import XiaozhiPlatform.GoLib.JsonRead
import XiaozhiPlatform.Provisioning.Proof

/-!
# Texts that both sides accept

The gateway checks the texts of a manifest as strings and the device as bytes. What the gateway
accepts as an identifier, a version, a digest or an encoded signature the device accepts too.
-/

namespace XiaozhiPlatform.OtaReleases

open GoLib CLib Auth ProductOta

/-! ## Characters -/

variable {c : Char}

theorem ascii_of_isIdentifierChar (h : isIdentifierChar c = true) : c.toNat < 128 :=
  (isPlain_of_isIdentifierChar h).2.1

theorem isIdentifierChar_of_isVersionChar (h : Provisioning.isVersionChar c = true) :
    isIdentifierChar c = true ∨ c = '+' := by grind [Provisioning.isVersionChar, isIdentifierChar]

theorem ascii_of_isVersionChar (h : Provisioning.isVersionChar c = true) : c.toNat < 128 := by
  rcases isIdentifierChar_of_isVersionChar h with hidentifier | rfl
  · exact ascii_of_isIdentifierChar hidentifier
  · decide

theorem isIdentifierChar_of_isLowerHex (h : Provisioning.isLowerHex c = true) :
    isIdentifierChar c = true := by
  simp only [Provisioning.isLowerHex, Bool.or_eq_true, Bool.and_eq_true, decide_eq_true_eq] at h
  simp only [isIdentifierChar, Bool.or_eq_true, decide_eq_true_eq]
  rcases h with ⟨hlow, hhigh⟩ | ⟨hlow, hhigh⟩
  · exact .inl (.inl (.inl (.inl (.inr (by simpa [Char.isDigit] using ⟨hlow, hhigh⟩)))))
  · refine .inl (.inl (.inl (.inl (.inl (.inl ?_)))))
    simp only [Char.isLower, Bool.and_eq_true, decide_eq_true_eq]
    exact ⟨hlow, Char.le_trans hhigh (by decide)⟩

theorem plainChar_of_isIdentifierChar (h : isIdentifierChar c = true) : Json.PlainChar c := by
  obtain ⟨hlow, hascii, hnot⟩ := isPlain_of_isIdentifierChar h
  refine ⟨hascii, ?_, by omega⟩
  rintro rfl
  exact hnot (by decide)

/-! ## Texts -/

theorem exists_hexDecode : ∀ {bytes : List UInt8}, (∀ byte ∈ bytes, isLowerHex byte = true) →
    ∃ output, hexDecode bytes = some output
  | [], _ => ⟨[], rfl⟩
  | [_], _ => ⟨[], rfl⟩
  | high :: low :: rest, h => by
    have hbytes : ∀ byte ∈ rest, isLowerHex byte = true := fun byte hbyte => h byte (by simp [hbyte])
    obtain ⟨output, hrest⟩ := exists_hexDecode hbytes
    rw [hexDecode, h high (by simp), h low (by simp), hrest]
    exact ⟨_, rfl⟩

section Texts

variable {value : String} {text : CString} (htext : text.bytes = bytesOf value)

include htext

theorem length_pos_of_ne_empty (h : value ≠ "") : text.bytes.length ≠ 0 := by
  rw [htext, ne_eq, List.length_eq_zero_iff]
  intro hnil
  exact h (bytesOf_injective hnil)

theorem identifierValid_of_validIdentifier (h : ValidIdentifier value maximum) :
    identifierValid text maximum = true := by
  have hbytes := forall_utf8 (q := fun byte => isIdentifierByte byte = true)
    (fun c => ascii_of_isIdentifierChar) (by decide) h.2.2
  simp only [identifierValid, Bool.and_eq_true, decide_eq_true_eq, List.all_eq_true]
  refine ⟨⟨length_pos_of_ne_empty htext h.1, ?_⟩, ?_⟩
  · rw [htext]
    exact h.2.1
  · rw [htext]
    exact hbytes

theorem versionValid_of_validVersion (h : Provisioning.ValidVersion value) :
    versionValid text = true := by
  have hbytes := forall_utf8 (q := fun byte => isVersionByte byte = true)
    (fun c => ascii_of_isVersionChar) (by decide) h.2.2
  simp only [versionValid, Bool.and_eq_true, decide_eq_true_eq, List.all_eq_true]
  refine ⟨⟨length_pos_of_ne_empty htext h.1, ?_⟩, ?_⟩
  · rw [htext]
    exact h.2.1
  · rw [htext]
    exact hbytes

theorem sha256HexDecode_of_validSHA256 (h : Provisioning.ValidSHA256 value) :
    ∃ digest, sha256HexDecode text = some digest := by
  have hbytes := forall_utf8 (q := fun byte => isLowerHex byte = true)
    (fun c hc => ascii_of_isIdentifierChar (isIdentifierChar_of_isLowerHex hc)) (by decide) h.2
  have hlength : text.bytes.length = 64 := by
    rw [htext]
    exact h.1
  rw [sha256HexDecode, if_neg (not_not.mpr hlength), htext]
  exact exists_hexDecode hbytes

end Texts

/-! ## Signatures -/

/-- The byte of a symbol. -/
def symbolByte (n : ℕ) : UInt8 := UInt8.ofNat (Base64.symbol n).toNat

theorem base64urlValue_symbolByte (h : n < 64) : base64urlValue (symbolByte n) = n := by
  have hall : ∀ m : Fin 64, base64urlValue (symbolByte m) = (m : ℕ) := by decide +kernel
  exact hall ⟨n, h⟩

theorem utf8_encode (bytes : List UInt8) :
    utf8 (Base64.encode bytes) = (Base64.values bytes).map symbolByte := by
  rw [Base64.encode_eq_map, utf8, List.flatMap_map]
  have hall : ∀ m : Fin 64, String.utf8EncodeChar (Base64.symbol m) = [symbolByte m] := by
    decide +kernel
  have hsymbol : ∀ n ∈ Base64.values bytes,
      String.utf8EncodeChar (Base64.symbol n) = [symbolByte n] := fun n hn =>
    hall ⟨n, Base64.lt_of_mem_values hn⟩
  rw [List.flatMap_congr hsymbol, List.map_eq_flatMap]

theorem decodeLoop_symbol (hn : n < 64) (produced rest : List
    UInt8) : decodeLoop capacity produced accumulator bits (symbolByte n :: rest) = if 8 ≤ bits + 6
    then if capacity ≤ produced.length then none else decodeLoop capacity (produced ++ [UInt8.ofNat
    ((accumulator * 64 + n) / 2 ^ (bits + 6 - 8))]) ((accumulator * 64 + n) % 2 ^ (bits + 6 - 8))
    (bits + 6 - 8) rest else decodeLoop capacity produced (accumulator * 64 + n) (bits + 6) rest
    := by
  rw [decodeLoop, base64urlValue_symbolByte hn]
  simp

/-- The bits that are left when the digits are made into bytes. -/
def leftover : List ℕ → ℕ
  | [_, w] => w % 16
  | [_, _, x] => x % 4
  | _ :: _ :: _ :: _ :: rest => leftover rest
  | _ => 0

theorem packed_of_leftover : ∀ {digits : List ℕ}, digits.length % 4 ≠ 1 → leftover digits = 0 →
    Base64.Packed digits
  | [], _, _ => trivial
  | [_], h, _ => absurd rfl h
  | [_, _], _, h => h
  | [_, _, _], _, h => h
  | _ :: _ :: _ :: _ :: rest, hlength, h => by
    have hrest : rest.length % 4 ≠ 1 := by simpa [Nat.add_assoc] using hlength
    have hpacked : Base64.Packed rest := packed_of_leftover hrest h
    exact hpacked

theorem leftover_values : ∀ bytes : List UInt8, leftover (Base64.values bytes) = 0
  | [] => rfl
  | [a] => by simp [Base64.values, leftover]
  | [a, b] => by simp [Base64.values, leftover]
  | a :: b :: c :: rest => leftover_values rest

section Loop

variable {capacity r v w : ℕ} {produced rest : List UInt8}

theorem decodeLoop_two (hv : v < 64) (hw : w < 64) :
    decodeLoop capacity produced 0 0 (symbolByte v :: symbolByte w :: rest) =
      if capacity ≤ produced.length then none
      else decodeLoop capacity (produced ++ [UInt8.ofNat (v * 4 + w / 16)]) (w % 16) 4 rest := by
  have hbyte : ((0 * 64 + v) * 64 + w) / 2 ^ (0 + 6 + 6 - 8) = v * 4 + w / 16 := by omega
  have hleft : ((0 * 64 + v) * 64 + w) % 2 ^ (0 + 6 + 6 - 8) = w % 16 := by omega
  rw [decodeLoop_symbol hv, if_neg (by decide), decodeLoop_symbol hw, if_pos (by decide), hbyte, hleft]

theorem decodeLoop_three (hv : v < 64) :
    decodeLoop capacity produced r 4 (symbolByte v :: rest) =
      if capacity ≤ produced.length then none
      else decodeLoop capacity (produced ++ [UInt8.ofNat (r * 16 + v / 4)]) (v % 4) 2 rest := by
  have hbyte : (r * 64 + v) / 2 ^ (4 + 6 - 8) = r * 16 + v / 4 := by omega
  have hleft : (r * 64 + v) % 2 ^ (4 + 6 - 8) = v % 4 := by omega
  rw [decodeLoop_symbol hv, if_pos (by decide), hbyte, hleft]

theorem decodeLoop_four (hv : v < 64) :
    decodeLoop capacity produced r 2 (symbolByte v :: rest) =
      if capacity ≤ produced.length then none
      else decodeLoop capacity (produced ++ [UInt8.ofNat (r * 64 + v)]) 0 0 rest := by
  rw [decodeLoop_symbol hv, if_pos (by decide), Nat.sub_self, pow_zero, Nat.div_one, Nat.mod_one]

end Loop

/-- The loop makes the bytes of its digits as long as there is room for them. -/
theorem decodeLoop_digits (capacity : ℕ) : ∀ (digits : List ℕ) (produced : List UInt8),
    (∀ v ∈ digits, v < 64) → digits.length % 4 ≠ 1 → produced.length ≤ capacity →
    decodeLoop capacity produced 0 0 (digits.map symbolByte) =
      (Base64.decodeValues digits).bind fun bytes => if produced.length + bytes.length ≤ capacity
        then some (produced ++ bytes, leftover digits) else none
  | [], produced, _, _, hroom => by simp [decodeLoop, Base64.decodeValues, leftover, hroom]
  | [_], _, _, h, _ => absurd rfl h
  | [v, w], produced, hlt, _, hroom => by
    simp only [List.forall_mem_cons] at hlt
    rw [List.map_cons, List.map_singleton, decodeLoop_two hlt.1 hlt.2.1, decodeLoop]
    simp only [Base64.decodeValues, leftover, Option.bind_some, List.length_singleton]
    grind
  | [v, w, x], produced, hlt, _, hroom => by
    simp only [List.forall_mem_cons] at hlt
    rw [List.map_cons, List.map_cons, List.map_singleton, decodeLoop_two hlt.1 hlt.2.1,
      decodeLoop_three hlt.2.2.1, decodeLoop]
    simp only [Base64.decodeValues, leftover, Option.bind_some, List.length_cons, List.length_nil,
      List.length_append]
    grind
  | v :: w :: x :: y :: rest, produced, hlt, hlength, hroom => by
    simp only [List.forall_mem_cons] at hlt
    have hrest : rest.length % 4 ≠ 1 := by simpa [Nat.add_assoc] using hlength
    simp only [List.map_cons, decodeLoop_two hlt.1 hlt.2.1, decodeLoop_three hlt.2.2.1,
      decodeLoop_four hlt.2.2.2.1, List.append_assoc, List.cons_append, List.nil_append,
      List.length_append, List.length_cons, List.length_nil, Base64.decodeValues, leftover]
    by_cases hmore : produced.length + 3 ≤ capacity
    · rw [if_neg (by omega), if_neg (by omega), if_neg (by omega),
        decodeLoop_digits capacity rest _ hlt.2.2.2.2 hrest (by simpa using hmore)]
      cases Base64.decodeValues rest with
      | none => rfl
      | some bytes =>
        have hsum : produced.length + 3 + bytes.length = produced.length + (bytes.length + 3) := by
          omega
        simp [hsum]
    · rw [if_pos (show capacity ≤ produced.length + (0 + 1 + 1) by omega), ite_self, ite_self]
      cases Base64.decodeValues rest with
      | none => rfl
      | some bytes =>
        simp
        omega

/-- A byte that the loop takes is that of a symbol. -/
theorem exists_symbolByte (h : ¬ base64urlValue byte < 0) : ∃ n < 64, byte = symbolByte n := by
  have hall : ∀ byte : UInt8, ¬ base64urlValue byte < 0 →
      (base64urlValue byte).toNat < 64 ∧ byte = symbolByte (base64urlValue byte).toNat :=
    forall_byte (by decide +kernel)
  exact ⟨_, hall byte h⟩

theorem exists_digits (h : decodeLoop capacity produced accumulator bits input = some result) :
    ∃ digits : List ℕ, (∀ v ∈ digits, v < 64) ∧ input = digits.map symbolByte := by
  induction input generalizing produced accumulator bits with
  | nil => exact ⟨[], by simp, rfl⟩
  | cons byte input ih =>
    by_cases hvalue : base64urlValue byte < 0
    · simp [decodeLoop, hvalue] at h
    · obtain ⟨n, hn, rfl⟩ := exists_symbolByte hvalue
      rw [decodeLoop_symbol hn] at h
      have hrest : ∃ digits : List ℕ, (∀ v ∈ digits, v < 64) ∧ input = digits.map symbolByte := by
        split_ifs at h
        · exact ih h
        · exact ih h
      obtain ⟨digits, hdigits, rfl⟩ := hrest
      exact ⟨n :: digits, List.forall_mem_cons.mpr ⟨hn, hdigits⟩, rfl⟩

theorem bytesOf_encodeToString (bytes : List UInt8) :
    bytesOf (Base64.encodeToString bytes) = (Base64.values bytes).map symbolByte := by
  rw [bytesOf, Base64.encodeToString, String.toList_ofList, utf8_encode]

theorem decodeBase64url_encode {signature : List UInt8} {text : CString} {capacity : ℕ}
    (htext : text.bytes = bytesOf (Base64.encodeToString signature)) (hne : signature ≠ [])
    (hcapacity : signature.length ≤ capacity) : decodeBase64url text capacity = some signature := by
  rw [bytesOf_encodeToString] at htext
  have hlength : text.bytes.length = (signature.length * 4 + 2) / 3 := by
    rw [← Base64.length_encode, Base64.encode_eq_map, htext, List.length_map, List.length_map]
  have hpositive : 0 < signature.length := List.length_pos_iff.mpr hne
  have hequals : 61 ∉ text.bytes := by
    rw [htext]
    intro hmem
    obtain ⟨n, hn, hsymbol⟩ := List.mem_map.mp hmem
    have hall : ∀ m : Fin 64, symbolByte m ≠ 61 := by decide +kernel
    exact hall ⟨n, Base64.lt_of_mem_values hn⟩ hsymbol
  have hdigits : (Base64.values signature).length % 4 ≠ 1 := by
    rw [htext, List.length_map] at hlength
    omega
  rw [decodeBase64url, if_neg (by grind), htext, decodeLoop_digits capacity _ []
    (fun _ => Base64.lt_of_mem_values) hdigits (Nat.zero_le _), Base64.decodeValues_values]
  simp [leftover_values, hcapacity]

theorem encode_of_decodeBase64url {text : CString}
    (h : decodeBase64url text capacity = some bytes) : bytes ≠ [] ∧ bytes.length ≤ capacity ∧
      text.bytes = bytesOf (Base64.encodeToString bytes) := by
  rw [decodeBase64url] at h
  split at h
  next => cases h
  next hinput =>
    push Not at hinput
    cases hloop : decodeLoop capacity [] 0 0 text.bytes with
    | none => simp [hloop] at h
    | some result =>
      obtain ⟨produced, accumulator⟩ := result
      obtain ⟨hzero, rfl⟩ : accumulator = 0 ∧ produced = bytes := by simpa [hloop] using h
      obtain ⟨digits, hlt, hdigits⟩ := exists_digits hloop
      rw [hdigits, List.length_map] at hinput
      rw [hdigits, decodeLoop_digits capacity digits [] hlt hinput.2.2 (Nat.zero_le _)] at hloop
      obtain ⟨decoded, hdecoded, hmade⟩ := Option.bind_eq_some_iff.mp hloop
      obtain ⟨hroom, rfl, hleft⟩ : decoded.length ≤ capacity ∧ decoded = produced ∧
          leftover digits = accumulator := by simpa using hmade
      -- no bit is left, so the digits are those of some bytes, and these are the decoded ones
      obtain ⟨bytes, rfl⟩ :=
        Base64.exists_values_eq hlt (packed_of_leftover hinput.2.2 (hleft.trans hzero))
      rw [Base64.decodeValues_values, Option.some.injEq] at hdecoded
      subst hdecoded
      refine ⟨?_, hroom, hdigits.trans (bytesOf_encodeToString _).symm⟩
      rintro rfl
      exact hinput.2.1 rfl

/-- `decode_base64url` accepts the canonical encodings of the byte strings that are not empty and
fit the buffer, and returns those bytes. -/
theorem decodeBase64url_iff (text : CString) (capacity : ℕ) (bytes : List UInt8) :
    decodeBase64url text capacity = some bytes ↔ bytes ≠ [] ∧ bytes.length ≤ capacity ∧
      text.bytes = bytesOf (Base64.encodeToString bytes) :=
  ⟨encode_of_decodeBase64url, fun h => decodeBase64url_encode h.2.2 h.1 h.2.1⟩

/-! ## Escaped zeros -/

theorem containsEscapedNul_cons (h : byte ≠ 92) (rest : List UInt8) :
    containsEscapedNul (byte :: rest) = containsEscapedNul rest := by
  rcases rest with - | ⟨b, - | ⟨c, - | ⟨d, - | ⟨e, - | ⟨f, rest⟩⟩⟩⟩⟩
  case cons.cons.cons.cons.cons => simp [containsEscapedNul, h]
  all_goals rfl

theorem containsEscapedNul_escape (hlower : next ≠ 117) (hupper : next ≠ 85) (rest :
    List UInt8) : containsEscapedNul (92 :: next :: rest) = containsEscapedNul (next :: rest) := by
  rcases rest with - | ⟨c, - | ⟨d, - | ⟨e, - | ⟨f, rest⟩⟩⟩⟩
  case cons.cons.cons.cons => simp [containsEscapedNul, hlower, hupper]
  all_goals rfl

/-- An ASCII text without escaped zeros. -/
def Clean (chars : List Char) : Prop :=
  ∃ bytes : List UInt8, (∀ byte ∈ bytes, byte < 128) ∧ chars = CLib.text bytes ∧
    containsEscapedNul bytes = false

theorem exists_charOf (h : c.toNat < 128) : ∃ byte : UInt8, byte < 128 ∧ c = charOf byte := by
  have hnat : (UInt8.ofNat c.toNat).toNat = c.toNat := UInt8.toNat_ofNat_of_lt' (by
    simp only [UInt8.size]
    omega)
  refine ⟨UInt8.ofNat c.toNat, ?_, ?_⟩
  · rw [UInt8.lt_iff_toNat_lt, hnat]
    exact h
  · rw [charOf, hnat, Char.ofNat_toNat]

theorem clean_cons (hascii : c.toNat < 128) (hslash : c ≠ '\\')
    (h : Clean rest) : Clean (c :: rest) := by
  obtain ⟨bytes, hbytes, rfl, hclean⟩ := h
  obtain ⟨byte, hbyte, rfl⟩ := exists_charOf hascii
  have hne : byte ≠ 92 := by
    rintro rfl
    exact hslash rfl
  refine ⟨byte :: bytes, ?_, rfl, ?_⟩
  · grind
  · rw [containsEscapedNul_cons hne, hclean]

theorem shortEscape_eq_some (h : Json.shortEscape e = some unit) :
    e.toNat < 128 ∧ e ≠ 'u' ∧ e ≠ 'U' := by
  unfold Json.shortEscape at h
  split at h
  case h_9 => cases h
  all_goals decide

theorem hexValue_eq_some (h : Hex.value c = some n) :
    c.toNat < 128 ∧ c ≠ '\\' ∧ (c = '0' → n = 0) := by
  have hslash : c ≠ '\\' := by
    rintro rfl
    cases h
  have hzero : c = '0' → n = 0 := by
    rintro rfl
    cases h
    rfl
  refine ⟨?_, hslash, hzero⟩
  unfold Hex.value at h
  simp only [Char.le_def, UInt32.le_iff_toNat_le] at h
  change (if 48 ≤ c.toNat ∧ c.toNat ≤ 57 then _ else if 97 ≤ c.toNat ∧ c.toNat ≤ 102 then _
    else if 65 ≤ c.toNat ∧ c.toNat ≤ 70 then _ else _) = _ at h
  split at h
  · omega
  · grind

theorem containsEscapedNul_of_clean (h : Clean (decodeRunes bytes)) :
    containsEscapedNul bytes = false := by
  obtain ⟨ascii, hascii, heq, hclean⟩ := h
  have hall : ∀ byte : UInt8, byte < 128 → charOf byte ≠ runeError := forall_byte (by decide +kernel)
  have herror : runeError ∉ decodeRunes bytes := by
    rw [heq]
    intro hmem
    obtain ⟨byte, hbyte, hchar⟩ := List.mem_map.mp hmem
    exact hall byte (hascii byte hbyte) hchar
  have hbytes := utf8_decodeRunes herror
  rw [heq, utf8_text hascii] at hbytes
  rw [← hbytes]
  exact hclean

theorem closed_clean : Json.Closed Clean where
  nil := ⟨[], nofun, rfl, rfl⟩
  char := clean_cons
  short := by
    intro e unit rest hunit hslash hrest
    obtain ⟨hascii, hlower, hupper⟩ := shortEscape_eq_some hunit
    obtain ⟨bytes, hbytes, heq, hclean⟩ := clean_cons hascii hslash hrest
    cases bytes with
    | nil => cases heq
    | cons byte bytes =>
      have hchar : e = charOf byte := (List.cons.inj heq).1
      refine ⟨92 :: byte :: bytes, ?_, by rw [heq]; rfl, ?_⟩
      · grind
      · rw [containsEscapedNul_escape _ _ bytes, hclean]
        · rintro rfl
          exact hlower hchar
        · rintro rfl
          exact hupper hchar
  unicode := by
    intro a b c d rest h i j k ha hb hc hd hvalue hrest
    have hdigits : Clean ('u' :: a :: b :: c :: d :: rest) := by
      grind [clean_cons, hexValue_eq_some]
    obtain ⟨bytes, hbytes, heq, hclean⟩ := hdigits
    -- The four digits are not all zero, so the escape is not the one that is looked for.
    rcases bytes with - | ⟨u, - | ⟨a', - | ⟨b', - | ⟨c', - | ⟨d', bytes⟩⟩⟩⟩⟩
    case cons.cons.cons.cons.cons =>
      simp only [CLib.text, List.map_cons, List.cons.injEq] at heq
      obtain ⟨hu, hea, heb, hec, hed, hrestEq⟩ := heq
      refine ⟨92 :: u :: a' :: b' :: c' :: d' :: bytes, ?_, ?_, ?_⟩
      · grind
      · simp only [CLib.text, List.map_cons, ← hu, ← hea, ← heb, ← hec, ← hed, ← hrestEq]
        rfl
      · rw [containsEscapedNul, hclean, Bool.or_false]
        rw [Bool.eq_false_iff]
        intro hfound
        simp only [Bool.and_eq_true, decide_eq_true_eq] at hfound
        obtain ⟨⟨⟨⟨-, rfl⟩, rfl⟩, rfl⟩, rfl⟩ := hfound
        have hzeros : h = 0 ∧ i = 0 ∧ j = 0 ∧ k = 0 :=
          ⟨(hexValue_eq_some ha).2.2 hea, (hexValue_eq_some hb).2.2 heb,
            (hexValue_eq_some hc).2.2 hec, (hexValue_eq_some hd).2.2 hed⟩
        omega
    all_goals simp [CLib.text] at heq

end XiaozhiPlatform.OtaReleases
