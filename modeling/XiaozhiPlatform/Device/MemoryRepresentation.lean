import XiaozhiPlatform.Device.MemoryFormat

/-!
# Stored blobs and the states they stand for

`product_agent_memory_core_decode` trusts that an accepted blob of the current format has no second
representation. A size in an item counts the bytes of a field, though, and the state keeps them as a
C string: behind a NUL they are lost.

- `eq_blobOf`: the header of an accepted blob is determined by its state.
- `encode_of_decode_iff`: a blob is encoded from its state exactly if no item field holds a NUL.
-/

namespace XiaozhiPlatform.AgentMemory

open CLib
open LittleEndian (readAt drop_eq_put)

/-- Whether no field of the stored items holds a NUL. -/
def nulFree : ℕ → List UInt8 → Bool
  | 0, _ => true
  | count + 1, input =>
    (decodeItem input).all fun (_, rest) =>
      decide (0 ∉ (input.drop itemHeaderSize).take (input.length - itemHeaderSize - rest.length)) &&
        nulFree count rest

variable {input : List UInt8}

theorem drop_eq_byteAt (h : index < input.length) :
    input.drop index = UInt8.ofNat (byteAt index input) :: input.drop (index + 1) := by
  rw [List.drop_eq_getElem_cons h, byteAt, List.getD_eq_getElem?_getD, List.getElem?_eq_getElem h,
    Option.getD_some, UInt8.ofNat_toNat]

/-- Without a NUL in its fields, an item is encoded as it was stored. -/
theorem encodeItem_of_decodeItem (h : decodeItem input = some (item, rest))
    (hfree : 0 ∉ (input.drop itemHeaderSize).take (input.length - itemHeaderSize - rest.length)) :
    input = encodeItem item ++ rest := by
  unfold decodeItem at h
  split at h
  · cases h
  next hlength =>
  dsimp only at h
  split at h
  · cases h
  next hsizes =>
  cases h
  simp only [itemHeaderSize] at hlength hsizes hfree ⊢
  push Not at hsizes
  have hfit := hsizes.2.2.2.2
  rw [List.length_drop] at hfit
  have hfields : input.length - 8 - (input.drop 8 |>.drop
      (byteAt 1 input + readAt 2 2 input)).length =
        byteAt 1 input + readAt 2 2 input := by
    rw [List.length_drop, List.length_drop]
    omega
  rw [hfields, List.take_add, List.mem_append, not_or] at hfree
  have hkey : ((input.drop 8).take (byteAt 1 input)).length = byteAt 1 input := by
    rw [List.length_take, List.length_drop]
    omega
  have hvalue : (((input.drop 8).drop (byteAt 1 input)).take
      (readAt 2 2 input)).length = readAt 2 2 input := by
    rw [List.length_take, List.length_drop, List.length_drop]
    omega
  have hheader : input = [UInt8.ofNat (byteAt 0 input), UInt8.ofNat (byteAt 1 input)] ++
      (LittleEndian.put 2 (readAt 2 2 input) ++
        (LittleEndian.put 4 (readAt 4 4 input) ++ input.drop 8)) := by
    have hfour : input.drop 4 = LittleEndian.put 4 (readAt 4 4 input) ++ input.drop 8 :=
      drop_eq_put (by omega)
    have htwo : input.drop 2 = LittleEndian.put 2 (readAt 2 2 input) ++ input.drop 4 :=
      drop_eq_put (by omega)
    have hone : input.drop 1 = UInt8.ofNat (byteAt 1 input) :: input.drop 2 :=
      drop_eq_byteAt (by omega)
    have hzero : input.drop 0 = UInt8.ofNat (byteAt 0 input) :: input.drop 1 :=
      drop_eq_byteAt (by omega)
    rw [← hfour, ← htwo]
    exact hzero.trans (congrArg _ hone)
  have hpayload : input.drop 8 = (input.drop 8).take (byteAt 1 input) ++
      (((input.drop 8).drop (byteAt 1 input)).take (readAt 2 2 input) ++
        (input.drop 8).drop (byteAt 1 input + readAt 2 2 input)) := by
    rw [← List.drop_drop, List.take_append_drop, List.take_append_drop]
  rw [encodeItem, bytes_cStringOf_of_notMem hfree.1, bytes_cStringOf_of_notMem hfree.2, hkey, hvalue]
  simp only [List.append_assoc]
  rw [← hpayload]
  exact hheader

theorem flatMap_of_decodeItems (h : decodeItems (fun _ _ => true) previous count input = some
    (items,
    rest)) (hfree : nulFree count input = true) :
    input = items.flatMap encodeItem ++ rest ∧ items.length = count := by
  induction count generalizing previous input items with
  | zero =>
    cases h
    exact ⟨rfl, rfl⟩
  | succ count ih =>
    rw [decodeItems] at h
    split at h
    · cases h
    next item after hitem =>
    rw [if_pos rfl, Option.map_eq_some_iff] at h
    obtain ⟨⟨items, last⟩, hitems, hpair⟩ := h
    cases hpair
    rw [nulFree, hitem, Option.all_some, Bool.and_eq_true, decide_eq_true_eq] at hfree
    obtain ⟨hafter, hcount⟩ := ih hitems hfree.2
    refine ⟨?_, congrArg (· + 1) hcount⟩
    rw [List.flatMap_cons, List.append_assoc, ← hafter]
    exact encodeItem_of_decodeItem hitem hfree.1

theorem nulFree_flatMap {generation : ℕ} (hgeneration : generation ≤ uint32Max) {items : List Item}
    (h : ∀ item ∈ items, itemValid generation item = true) :
    nulFree items.length (items.flatMap encodeItem) = true := by
  induction items with
  | nil => rfl
  | cons item items ih =>
    have hitem := decodeItem_encodeItem (h item List.mem_cons_self) hgeneration
      (items.flatMap encodeItem)
    rw [List.flatMap_cons, List.length_cons, nulFree, hitem, Option.all_some, Bool.and_eq_true,
      decide_eq_true_eq]
    refine ⟨?_, ih fun other hother => h other (List.mem_cons_of_mem _ hother)⟩
    have hfields : (encodeItem item ++ items.flatMap encodeItem).drop itemHeaderSize =
        (item.key.bytes ++ item.value.bytes) ++ items.flatMap encodeItem := by
      simp only [encodeItem, List.append_assoc]
      rw [← List.append_assoc, ← List.append_assoc]
      exact List.drop_left' (by simp [itemHeaderSize])
    rw [hfields, List.length_append, length_encodeItem, List.take_left' (by
      rw [List.length_append]; omega), List.mem_append, not_or]
    exact ⟨item.key.nonzero, item.value.nonzero⟩

variable {state : State}

/-- The header of an accepted blob is the one that its fields are written to. -/
theorem eq_blobOf (hheader : headerValid input = true)
    (hcount : byteAt 5 input = state.items.length)
    (hgeneration : readAt 8 4 input = state.generation)
    (hrevision : readAt 20 8 input = state.bindingRevision)
    (hbinding : (input.drop 28).take bindingIDMax = encodeBindingID state)
    (hitems : input.drop headerSize = state.items.flatMap encodeItem) :
    input = blobOf state input.length (readAt checksumOffset 4 input) := by
  simp only [headerValid, Bool.and_eq_true, decide_eq_true_eq] at hheader
  obtain ⟨⟨⟨⟨⟨⟨⟨⟨⟨⟨⟨⟨⟨hsize, -⟩, hmagic⟩, h4⟩, -⟩, h6⟩, h7⟩, h14⟩, h15⟩, h50⟩, h51⟩, -⟩, hpayload⟩, -⟩ :=
    hheader
  simp only [headerSize] at hsize
  have hbyte : ∀ {index value : ℕ}, byteAt index input = value → index < 52 →
      input.drop index = UInt8.ofNat value :: input.drop (index + 1) := fun h hlt =>
    h ▸ drop_eq_byteAt (hlt.trans_le hsize)
  have hfield : ∀ {offset width value : ℕ}, readAt offset width input = value →
      offset + width ≤ 52 →
        input.drop offset = LittleEndian.put width value ++ input.drop (offset + width) :=
    fun h hle => h ▸ drop_eq_put (hle.trans hsize)
  have hid : input.drop 28 = encodeBindingID state ++ input.drop 50 := by
    rw [← hbinding, show 50 = 28 + bindingIDMax from rfl, ← List.drop_drop, List.take_append_drop]
  have hchecksum : readAt 16 4 input = readAt checksumOffset 4 input := rfl
  calc input = formatMagic ++ input.drop 4 := by rw [← hmagic, List.take_append_drop]
    _ = blobOf state input.length (readAt checksumOffset 4 input) := by
      rw [hbyte h4 (by decide), hbyte hcount (by decide), hbyte h6 (by decide),
        hbyte h7 (by decide), hfield hgeneration (by decide), hfield hpayload (by decide),
        hbyte h14 (by decide), hbyte h15 (by decide), hfield hchecksum (by decide),
        hfield hrevision (by decide), hid, hbyte h50 (by decide), hbyte h51 (by decide),
        show 51 + 1 = headerSize from rfl, hitems]
      simp [blobOf, headerFront, headerBack, formatVersion, checksumOffset]

theorem encodeBindingID_of_decode (hvalid : Valid state) (hlength : headerSize ≤ input.length)
    (hrevision : readAt 20 8 input = state.bindingRevision)
    (hid : decodeBindingID input = some state.bindingID) :
    (input.drop 28).take bindingIDMax = encodeBindingID state := by
  have hfield : ((input.drop 28).take bindingIDMax).length = bindingIDMax := by
    simp only [headerSize] at hlength
    simp only [List.length_take, List.length_drop, bindingIDMax]
    omega
  unfold decodeBindingID at hid
  dsimp only at hid
  rw [hrevision] at hid
  cases hbound : isBound state with
  | true =>
    have hchecks := hbound
    simp only [isBound, bindingIDAllowed, Bool.and_eq_true, decide_eq_true_eq] at hchecks
    rw [if_pos hchecks.1.1, Option.some.injEq] at hid
    rw [encodeBindingID, if_pos hbound, ← hid]
    -- an identifier of full length has not been cut
    refine (List.IsPrefix.eq_of_length (List.takeWhile_prefix _) ?_).symm
    have hlong := hchecks.2.1.1
    rw [← hid] at hlong
    exact hlong.trans hfield.symm
  | false =>
    rw [(hvalid.unbound hbound).1, if_neg (Nat.lt_irrefl 0)] at hid
    split at hid
    next hzero =>
      rw [encodeBindingID, hbound, if_neg Bool.false_ne_true]
      refine List.eq_replicate_iff.mpr ⟨hfield, fun byte hbyte => ?_⟩
      exact of_decide_eq_true (List.all_eq_true.mp hzero byte hbyte)
    · cases hid

/-- An accepted blob of the current format is the one that its state is encoded to exactly if no
field of its items holds a NUL. -/
theorem encode_of_decode_iff {blob : List UInt8} (h : decode blob = some state)
    (hcurrent : blob.take 4 = formatMagic) :
    encode state blobMax = .ok blob ↔ nulFree (byteAt 5 blob) (blob.drop headerSize) = true := by
  obtain ⟨hvalid, hpositive, hle⟩ := valid_of_decode h
  rw [encode_eq_ok hvalid hpositive, Except.ok.injEq]
  constructor
  · rintro rfl
    rw [storedBlob, byteAt_count _ _ hvalid, drop_items]
    exact nulFree_flatMap hle hvalid.items
  intro hfree
  have hlegacy : ¬ (20 ≤ blob.length ∧ blob.take 4 = legacyFormatMagic) := by
    rw [hcurrent]
    exact fun hmagic => absurd hmagic.2 (by decide)
  rw [decode, if_neg hlegacy] at h
  split at h
  next hheader =>
    split at h
    · cases h
    next bindingID hid =>
    split at h
    next items hitems =>
      dsimp only at h
      split at h
      · cases h
        obtain ⟨hflat, hcount⟩ := flatMap_of_decodeItems hitems hfree
        rw [List.append_nil] at hflat
        have hchecks := hheader
        simp only [headerValid, Bool.and_eq_true, decide_eq_true_eq] at hchecks
        have hbinding := encodeBindingID_of_decode hvalid hchecks.1.1.1.1.1.1.1.1.1.1.1.1.1 rfl hid
        have hblob := eq_blobOf hheader hcount.symm rfl rfl hbinding hflat
        have hsize := (congrArg List.length hblob).trans (length_blobOf _ _ _)
        have hsum := hchecks.2
        rw [hblob, crc32_blobOf, ← hblob, hsize] at hsum
        rw [storedBlob, ← hsum, ← hsize]
        exact hblob.symm
      · cases h
    · cases h
  · cases h

/-- A blob whose only item has a key of two bytes, the second of them a NUL. -/
def nulBlob : List UInt8 :=
  formatMagic ++ ([2, 1, 0, 0, 1, 0, 0, 0, 11, 0, 0, 0] ++ (LittleEndian.put 4 0x648fd242 ++
    ([1, 0, 0, 0, 0, 0, 0, 0] ++ (List.replicate 22 65 ++
      [0, 0, 1, 2, 1, 0, 1, 0, 0, 0, 97, 0, 98]))))

/-- The state that is decoded from it; its key is shorter. -/
def nulState : State :=
  ⟨1, ⟨List.replicate 22 65, by decide⟩, 1, [⟨1, ⟨[97], by decide⟩, ⟨[98], by decide⟩, 1⟩]⟩

theorem encode_of_decode_iff_nul : encode nulState blobMax = .ok nulBlob ↔
    nulFree (byteAt 5 nulBlob) (nulBlob.drop headerSize) = true :=
  encode_of_decode_iff (by decide +kernel) (by decide)

/-- The blob is of the current format and accepted, and it is not what its state is encoded to. -/
theorem nulBlob_not_encoded : nulBlob.take 4 = formatMagic ∧ decode nulBlob = some nulState ∧
    encode nulState blobMax ≠ .ok nulBlob := by
  refine ⟨by decide, by decide +kernel, by decide +kernel⟩

end XiaozhiPlatform.AgentMemory
