import XiaozhiPlatform.CLib.LittleEndian
import XiaozhiPlatform.Device.MemoryCore

/-!
# How the agent memory is stored

A state is stored as one blob: a header of fixed little-endian fields with a checksum, and the items
behind it. Two slots hold such blobs, and the state is read from the one with the later generation.

- `encode_eq_ok`: a valid state of a generation is always encoded.
- `decode_storedBlob`: what is encoded is decoded.
- `valid_of_decode`: what is decoded is valid.
-/

namespace XiaozhiPlatform.AgentMemory

open CLib

/-! ## Model -/

def blobMax : ℕ := 2048

def formatVersion : UInt8 := 2

def headerSize : ℕ := 52

def itemHeaderSize : ℕ := 8

def checksumOffset : ℕ := 16

def formatMagic : List UInt8 := bytesOf "XAM2"

def legacyFormatMagic : List UInt8 := bytesOf "XAM1"

/-- The bytes that `crc32_with_zeroed_checksum` runs over. -/
def zeroChecksum (data : List UInt8) : List UInt8 :=
  data.mapIdx fun index value =>
    if checksumOffset ≤ index ∧ index < checksumOffset + 4 then 0 else value

/-- `crc32_with_zeroed_checksum`. -/
def crc32WithZeroedChecksum (data : List UInt8) : ℕ := (Crc32.checksum (zeroChecksum data)).toNat

/-! ### Encoding -/

/-- One item of the loop of `product_agent_memory_core_encode`. -/
def encodeItem (item : Item) : List UInt8 :=
  [UInt8.ofNat item.category, UInt8.ofNat item.key.bytes.length] ++
    (LittleEndian.put 2 item.value.bytes.length ++ (LittleEndian.put 4 item.revision ++
      (item.key.bytes ++ item.value.bytes)))

/-- The identifier of the binding in the header, zero for an unbound state. -/
def encodeBindingID (state : State) : List UInt8 :=
  if isBound state = true then state.bindingID.bytes else List.replicate bindingIDMax 0

/-- The header up to the checksum. -/
def headerFront (state : State) (size : ℕ) : List UInt8 :=
  formatMagic ++ ([formatVersion, UInt8.ofNat state.items.length, 0, 0] ++
    (LittleEndian.put 4 state.generation ++ (LittleEndian.put 2 (size - headerSize) ++ [0, 0])))

/-- The header behind the checksum. -/
def headerBack (state : State) : List UInt8 :=
  LittleEndian.put 8 state.bindingRevision ++ (encodeBindingID state ++ [0, 0])

/-- The blob of a state, with the checksum that is written into it. -/
def blobOf (state : State) (size checksum : ℕ) : List UInt8 :=
  headerFront state size ++ (LittleEndian.put 4 checksum ++
    (headerBack state ++ state.items.flatMap encodeItem))

/-- The size of the blob that `product_agent_memory_core_encode` computes first. -/
def requiredSize (state : State) : ℕ :=
  headerSize + (state.items.map fun item =>
    itemHeaderSize + item.key.bytes.length + item.value.bytes.length).sum

/-- `product_agent_memory_core_encode` into a buffer of the capacity. -/
def encode (state : State) (capacity : ℕ) : Except Result (List UInt8) :=
  if ¬ stateValid state true = true then .error .invalid
  else
    let required := requiredSize state
    if blobMax < required ∨ 2 ^ 16 - 1 < required then .error .invalid
    else if capacity < required then .error .bufferTooSmall
    else .ok (blobOf state required (crc32WithZeroedChecksum (blobOf state required 0)))

/-! ### Decoding

Every refusal is `PRODUCT_AGENT_MEMORY_CORE_CORRUPT`, so nothing is returned for it. -/

/-- A byte of the input as a number. -/
def byteAt (index : ℕ) (input : List UInt8) : ℕ := (input.getD index 0).toNat

/-- One item of the loops of `product_agent_memory_core_decode`, from what is left of the input. -/
def decodeItem (input : List UInt8) : Option (Item × List UInt8) :=
  if input.length < itemHeaderSize then none
  else
    let category := byteAt 0 input
    let keySize := byteAt 1 input
    let valueSize := LittleEndian.readAt 2 2 input
    let revision := LittleEndian.readAt 4 4 input
    let rest := input.drop itemHeaderSize
    if keySize = 0 ∨ keyMax < keySize ∨ valueSize = 0 ∨ valueMax < valueSize ∨
        rest.length < keySize + valueSize then none
    else
      some (⟨category, cStringOf (rest.take keySize), cStringOf ((rest.drop keySize).take valueSize),
        revision⟩, rest.drop (keySize + valueSize))

/-- The loop over the items. The one for the legacy format checks each item against the one before. -/
def decodeItems (check : Option Item → Item → Bool) (previous : Option Item) :
    ℕ → List UInt8 → Option (List Item × List UInt8)
  | 0, input => some ([], input)
  | count + 1, input =>
    match decodeItem input with
    | none => none
    | some (item, rest) =>
      if check previous item = true then
        (decodeItems check (some item) count rest).map fun (items, rest) => (item :: items, rest)
      else none

/-- The checks of the legacy header. -/
def legacyHeaderValid (input : List UInt8) : Bool :=
  input.length ≤ blobMax && byteAt 4 input = 1 && byteAt 5 input ≤ maxItems && byteAt 6 input = 0 &&
    byteAt 7 input = 0 && byteAt 14 input = 0 && byteAt 15 input = 0 &&
    LittleEndian.readAt 8 4 input ≠ 0 && LittleEndian.readAt 12 2 input = input.length - 20 &&
    LittleEndian.readAt checksumOffset 4 input = crc32WithZeroedChecksum input

/-- The branch of `product_agent_memory_core_decode` for the legacy format: only the generation is
kept. -/
def decodeLegacy (input : List UInt8) : Option State :=
  if legacyHeaderValid input = true then
    let generation := LittleEndian.readAt 8 4 input
    match decodeItems (fun previous item => itemValid generation item &&
        (previous.all fun p => p.key.unsigned < item.key.unsigned)) none (byteAt 5 input)
        (input.drop 20) with
    | some (_, []) => some { State.init with generation }
    | _ => none
  else none

/-- The checks of the header. -/
def headerValid (input : List UInt8) : Bool :=
  headerSize ≤ input.length && input.length ≤ blobMax && input.take 4 = formatMagic &&
    byteAt 4 input = formatVersion.toNat && byteAt 5 input ≤ maxItems && byteAt 6 input = 0 &&
    byteAt 7 input = 0 && byteAt 14 input = 0 && byteAt 15 input = 0 && byteAt 50 input = 0 &&
    byteAt 51 input = 0 && LittleEndian.readAt 8 4 input ≠ 0 &&
    LittleEndian.readAt 12 2 input = input.length - headerSize &&
    LittleEndian.readAt checksumOffset 4 input = crc32WithZeroedChecksum input

/-- The identifier of the binding, which has to be zero without a revision. -/
def decodeBindingID (input : List UInt8) : Option CString :=
  let field := (input.drop 28).take bindingIDMax
  if 0 < LittleEndian.readAt 20 8 input then some (cStringOf field)
  else if field.all (· = 0) then some (cStringOf [])
  else none

/-- `product_agent_memory_core_decode`. -/
def decode (input : List UInt8) : Option State :=
  if 20 ≤ input.length ∧ input.take 4 = legacyFormatMagic then decodeLegacy input
  else if headerValid input = true then
    match decodeBindingID input with
    | none => none
    | some bindingID =>
      match decodeItems (fun _ _ => true) none (byteAt 5 input) (input.drop headerSize) with
      | some (items, []) =>
        let decoded : State :=
          ⟨LittleEndian.readAt 8 4 input, bindingID, LittleEndian.readAt 20 8 input, items⟩
        if stateValid decoded true = true then some decoded else none
      | _ => none
  else none

/-! ### Selection -/

/-- `product_agent_memory_core_selection_t`. -/
structure Selection where
  selectedSlot : Option Bool
  slotPresent : Bool × Bool
  slotValid : Bool × Bool
  degraded : Bool
deriving DecidableEq, Repr

/-- What a slot decodes to; nothing for an absent slot, which has no bytes. -/
def decodeSlot (slot : List UInt8) : Option State := if slot = [] then none else decode slot

/-- `product_agent_memory_core_select`. The first slot is false, the second one true. -/
def select (slot0 slot1 : List UInt8) : Except Result (State × Selection) :=
  let present := (decide (slot0 ≠ []), decide (slot1 ≠ []))
  match decodeSlot slot0, decodeSlot slot1 with
  | none, none =>
    if present = (false, false) then .ok (.init, ⟨none, present, (false, false), false⟩)
    else .error .corrupt
  | some state0, some state1 =>
    if state0.generation = state1.generation then
      if slot0 = slot1 then .ok (state0, ⟨some false, present, (true, true), false⟩)
      else .error .diverged
    else if state0.generation < state1.generation then
      .ok (state1, ⟨some true, present, (true, true), true⟩)
    else .ok (state0, ⟨some false, present, (true, true), true⟩)
  | some state0, none => .ok (state0, ⟨some false, present, (true, false), true⟩)
  | none, some state1 => .ok (state1, ⟨some true, present, (false, true), true⟩)

/-! ## Sizes -/

theorem length_headerFront (state : State) (size : ℕ) :
    (headerFront state size).length = checksumOffset := by
  simp [headerFront, formatMagic, checksumOffset, show (bytesOf "XAM2").length = 4 by decide]

theorem length_encodeItem (item : Item) : (encodeItem item).length = itemHeaderSize +
    item.key.bytes.length + item.value.bytes.length := by
  simp [encodeItem, itemHeaderSize]
  omega

theorem length_encodeBindingID (state : State) : (encodeBindingID state).length = bindingIDMax := by
  grind [encodeBindingID, isBound, bindingIDAllowed]

theorem length_headerBack (state : State) : (headerBack state).length = 32 := by
  simp [headerBack, length_encodeBindingID, bindingIDMax]

theorem length_blobOf (state : State) (size checksum : ℕ) :
    (blobOf state size checksum).length = requiredSize state := by
  have hitems : (state.items.flatMap encodeItem).length =
      (state.items.map fun item =>
        itemHeaderSize + item.key.bytes.length + item.value.bytes.length).sum := by
    rw [List.length_flatMap]
    congr 1
    exact List.map_congr_left fun item _ => length_encodeItem item
  rw [blobOf, List.length_append, List.length_append, List.length_append, length_headerFront,
    length_headerBack, LittleEndian.length_put, hitems, requiredSize, headerSize, checksumOffset]
  omega

/-! ## The checksum -/

theorem zeroChecksum_append (hfront : front.length = checksumOffset) (hsum : sum.length = 4) :
    zeroChecksum (front ++ (sum ++ back)) = front ++ (List.replicate 4 0 ++ back) := by
  apply List.ext_getElem?
  intro index
  rw [zeroChecksum, List.getElem?_mapIdx]
  simp only [List.getElem?_append, hfront, hsum, List.length_replicate]
  rcases lt_or_ge index checksumOffset with hbefore | hafter
  · grind
  rw [if_neg (not_lt.mpr hafter), if_neg (not_lt.mpr hafter)]
  rcases lt_or_ge (index - checksumOffset) 4 with hinside | hbehind
  · grind
  · grind

theorem crc32_blobOf (state : State) (size checksum : ℕ) : crc32WithZeroedChecksum (blobOf state
    size checksum) = crc32WithZeroedChecksum (blobOf state size 0) := by
  rw [crc32WithZeroedChecksum, crc32WithZeroedChecksum, blobOf, blobOf,
    zeroChecksum_append (length_headerFront state size) (LittleEndian.length_put 4 checksum),
    zeroChecksum_append (length_headerFront state size) (LittleEndian.length_put 4 0)]

/-! ## Items -/

theorem length_of_keyAllowed (h : keyAllowed key = true) :
    0 < key.bytes.length ∧ key.bytes.length ≤ keyMax := by grind [keyAllowed]

theorem length_of_valueAllowed (h : valueAllowed value = true) :
    0 < value.bytes.length ∧ value.bytes.length ≤ valueMax := by
  grind [valueAllowed, validSingleLineUtf8]

theorem decodeItem_encodeItem (h : itemValid generation item = true)
    (hgeneration : generation ≤ uint32Max) (rest : List UInt8) :
    decodeItem (encodeItem item ++ rest) = some (item, rest) := by
  simp only [itemValid, Bool.and_eq_true, decide_eq_true_eq] at h
  obtain ⟨⟨⟨⟨hcategory, hkey⟩, hvalue⟩, hrevision⟩, hle⟩ := h
  obtain ⟨hkeyPositive, hkeyMax⟩ := length_of_keyAllowed hkey
  obtain ⟨hvaluePositive, hvalueMax⟩ := length_of_valueAllowed hvalue
  have hlength : ¬ (encodeItem item ++ rest).length < itemHeaderSize := by
    rw [List.length_append, length_encodeItem]
    omega
  have hcategoryRead : byteAt 0 (encodeItem item ++ rest) = item.category := by
    simp only [categoryValid, Bool.or_eq_true, decide_eq_true_eq] at hcategory
    refine UInt8.toNat_ofNat'.trans (Nat.mod_eq_of_lt ?_)
    omega
  have hkeyRead : byteAt 1 (encodeItem item ++ rest) = item.key.bytes.length := by
    refine UInt8.toNat_ofNat'.trans (Nat.mod_eq_of_lt ?_)
    exact hkeyMax.trans_lt (by decide)
  have hvalueRead : LittleEndian.readAt 2 2 (encodeItem item ++ rest) = item.value.bytes.length := by
    rw [encodeItem, List.append_assoc, List.append_assoc, LittleEndian.readAt_append (Nat.le_refl 2)]
    exact LittleEndian.readAt_put (hvalueMax.trans_lt (by decide)) _
  have hrevisionRead : LittleEndian.readAt 4 4 (encodeItem item ++ rest) = item.revision := by
    rw [encodeItem, List.append_assoc, List.append_assoc, List.append_assoc,
      LittleEndian.readAt_append (Nat.le_add_left 2 2),
      show 4 - [UInt8.ofNat item.category, UInt8.ofNat item.key.bytes.length].length = 2 from rfl,
      LittleEndian.readAt_append (LittleEndian.length_put 2 _).le, LittleEndian.length_put]
    exact LittleEndian.readAt_put ((hle.trans hgeneration).trans_lt (by decide)) _
  have hdrop : (encodeItem item ++ rest).drop itemHeaderSize =
      item.key.bytes ++ (item.value.bytes ++ rest) := by
    simp only [encodeItem, List.append_assoc]
    rw [← List.append_assoc, ← List.append_assoc]
    exact List.drop_left' (by simp [itemHeaderSize])
  have hsizes : ¬ (item.key.bytes.length = 0 ∨ keyMax < item.key.bytes.length ∨
      item.value.bytes.length = 0 ∨ valueMax < item.value.bytes.length ∨
      (item.key.bytes ++ (item.value.bytes ++ rest)).length <
        item.key.bytes.length + item.value.bytes.length) := by grind
  unfold decodeItem
  rw [if_neg hlength]
  dsimp only
  rw [hcategoryRead, hkeyRead, hvalueRead, hrevisionRead, hdrop, if_neg hsizes,
    List.take_left, List.drop_left, List.take_left, cStringOf_bytes, cStringOf_bytes,
    ← List.drop_drop, List.drop_left, List.drop_left]

theorem decodeItems_flatMap (hgeneration : generation ≤ uint32Max) (previous :
    Option Item) (h : ∀ item ∈ items, itemValid generation item = true) (rest :
    List UInt8) : decodeItems (fun _ _ => true) previous items.length (items.flatMap encodeItem ++
    rest) = some (items, rest) := by
  induction items generalizing previous with
  | nil => rfl
  | cons item items ih =>
    have hitem := decodeItem_encodeItem (h item List.mem_cons_self) hgeneration
      (items.flatMap encodeItem ++ rest)
    rw [List.flatMap_cons, List.append_assoc, List.length_cons, decodeItems, hitem]
    dsimp only
    rw [if_pos rfl, ih (some item) fun other hother => h other (List.mem_cons_of_mem _ hother)]
    rfl

/-! ## Blobs -/

section Blob

variable {state : State}

theorem stateValid_persisted (h : Valid state) (hgeneration : state.generation ≠ 0) :
    stateValid state true = true := by
  have hvalid := stateValid_iff.mpr h
  simp only [stateValid, Bool.not_false, Bool.true_and, Bool.false_and, Bool.not_true,
    hgeneration, decide_false, Bool.and_true] at hvalid ⊢
  exact hvalid

theorem valid_of_persisted (h : stateValid state true = true) :
    Valid state ∧ state.generation ≠ 0 := by
  have hgeneration : state.generation ≠ 0 := by
    intro hzero
    simp [stateValid, hzero] at h
  refine ⟨stateValid_iff.mp ?_, hgeneration⟩
  simp only [stateValid, Bool.not_false, Bool.true_and, Bool.false_and, Bool.not_true,
    hgeneration, decide_false, Bool.and_true] at h ⊢
  exact h

theorem requiredSize_le (h : Valid state) : requiredSize state ≤ blobMax := by
  have hsize : ∀ size ∈ state.items.map fun item =>
      itemHeaderSize + item.key.bytes.length + item.value.bytes.length, size ≤ 200 := by
    intro size hsize
    obtain ⟨item, hitem, rfl⟩ := List.mem_map.mp hsize
    have hvalid := h.items item hitem
    simp only [itemValid, Bool.and_eq_true] at hvalid
    have hkey := (length_of_keyAllowed hvalid.1.1.1.2).2
    have hvalue := (length_of_valueAllowed hvalid.1.1.2).2
    simp only [itemHeaderSize, keyMax, valueMax] at hkey hvalue ⊢
    omega
  have hsum := List.sum_le_card_nsmul _ 200 hsize
  have hcount := h.count
  rw [List.length_map, nsmul_eq_mul, Nat.cast_id] at hsum
  simp only [requiredSize, headerSize, blobMax, maxItems] at hcount ⊢
  omega

/-- The blob that a state is encoded to. -/
def storedBlob (state : State) : List UInt8 :=
  blobOf state (requiredSize state)
    (crc32WithZeroedChecksum (blobOf state (requiredSize state) 0))

/-- A valid state of a generation is always encoded. -/
theorem encode_eq_ok (h : Valid state) (hgeneration : state.generation ≠ 0) :
    encode state blobMax = .ok (storedBlob state) := by
  grind [requiredSize_le, encode, stateValid_persisted, storedBlob, blobMax]

theorem blobOf_eq (size checksum : ℕ) : blobOf state size checksum = [88, 65, 77, 50, 2, UInt8.ofNat
    state.items.length, 0, 0] ++ (LittleEndian.put 4 state.generation ++ (LittleEndian.put 2 (size -
    headerSize) ++ ([0, 0] ++ (LittleEndian.put 4 checksum ++ (LittleEndian.put 8
    state.bindingRevision ++ (encodeBindingID state ++ ([0, 0] ++ state.items.flatMap
    encodeItem))))))) := by
  have hmagic : formatMagic = [88, 65, 77, 50] := by decide
  simp [blobOf, headerFront, headerBack, hmagic, formatVersion]

variable (size checksum : ℕ)

theorem readAt_generation (h : state.generation ≤ uint32Max) :
    LittleEndian.readAt 8 4 (blobOf state size checksum) = state.generation := by
  have hfits : state.generation < 256 ^ 4 := h.trans_lt (by decide)
  rw [blobOf_eq]
  refine LittleEndian.readAt_field ?_ hfits _
  rfl

theorem readAt_payload (h : size ≤ blobMax) :
    LittleEndian.readAt 12 2 (blobOf state size checksum) = size - headerSize := by
  have hfits : size - headerSize < 256 ^ 2 := ((Nat.sub_le _ _).trans h).trans_lt (by decide)
  rw [blobOf_eq, ← List.append_assoc]
  refine LittleEndian.readAt_field ?_ hfits _
  rfl

theorem readAt_checksum (h : checksum < 2 ^ 32) :
    LittleEndian.readAt checksumOffset 4 (blobOf state size checksum) = checksum :=
  LittleEndian.readAt_field (length_headerFront state size) h _

theorem readAt_bindingRevision (h : state.bindingRevision < 2 ^ 64) :
    LittleEndian.readAt 20 8 (blobOf state size checksum) = state.bindingRevision := by
  have hfront : (headerFront state size ++ LittleEndian.put 4 checksum).length = 20 := by
    rw [List.length_append, length_headerFront, LittleEndian.length_put, checksumOffset]
  rw [blobOf, ← List.append_assoc, headerBack, List.append_assoc]
  exact LittleEndian.readAt_field hfront h _

theorem drop_bindingID : (blobOf state size checksum).drop 28 = encodeBindingID state ++ ([0, 0] ++
    state.items.flatMap encodeItem) := by
  rw [blobOf_eq]
  rfl

theorem drop_items :
    (blobOf state size checksum).drop headerSize = state.items.flatMap encodeItem := by
  rw [show headerSize = 28 + (bindingIDMax + 2) from rfl, ← List.drop_drop, drop_bindingID,
    ← List.drop_drop, List.drop_left' (length_encodeBindingID state)]
  rfl

theorem byteAt_reserved (h : index < 2) : byteAt (50 + index) (blobOf state size checksum) = 0 := by
  have hreserved : (blobOf state size checksum)[50 + index]? = some 0 := by
    rw [show 50 + index = 28 + (22 + index) by omega, ← List.getElem?_drop, drop_bindingID,
      List.getElem?_append_right (by rw [length_encodeBindingID, bindingIDMax]; omega),
      length_encodeBindingID, bindingIDMax, Nat.add_sub_cancel_left]
    interval_cases index <;> rfl
  rw [byteAt, List.getD_eq_getElem?_getD, hreserved]
  rfl

theorem crc32_lt (data : List UInt8) : crc32WithZeroedChecksum data < 2 ^ 32 := UInt32.toNat_lt _

theorem take_magic : (blobOf state size checksum).take 4 = formatMagic := by
  rw [blobOf, headerFront, List.append_assoc]
  exact List.take_left' (by decide)

theorem byteAt_count (h : Valid state) :
    byteAt 5 (blobOf state size checksum) = state.items.length := by
  rw [blobOf_eq]
  exact UInt8.toNat_ofNat'.trans (Nat.mod_eq_of_lt (h.count.trans_lt (by decide)))

theorem headerValid_storedBlob (h : Valid state) (hpositive : state.generation ≠ 0)
    (hgeneration : state.generation ≤ uint32Max) : headerValid (storedBlob state) = true := by
  have hlength : (storedBlob state).length = requiredSize state := length_blobOf _ _ _
  have hcount : byteAt 5 (storedBlob state) ≤ maxItems := (byteAt_count _ _ h).trans_le h.count
  have hread := readAt_generation (requiredSize state)
    (crc32WithZeroedChecksum (blobOf state (requiredSize state) 0)) hgeneration
  have hpayload := @readAt_payload state (requiredSize state)
    (crc32WithZeroedChecksum (blobOf state (requiredSize state) 0)) (requiredSize_le h)
  have hchecksum : LittleEndian.readAt checksumOffset 4 (storedBlob state) =
      crc32WithZeroedChecksum (storedBlob state) := by
    rw [storedBlob, readAt_checksum _ _ (crc32_lt _)]
    exact (crc32_blobOf state _ _).symm
  -- the fields that do not depend on the state
  have hfixed : byteAt 4 (storedBlob state) = formatVersion.toNat ∧ byteAt 6 (storedBlob state) = 0 ∧
      byteAt 7 (storedBlob state) = 0 ∧ byteAt 14 (storedBlob state) = 0 ∧
      byteAt 15 (storedBlob state) = 0 := by
    rw [storedBlob, blobOf_eq]
    exact ⟨rfl, rfl, rfl, rfl, rfl⟩
  have hfirst : byteAt 50 (storedBlob state) = 0 := byteAt_reserved _ _ Nat.two_pos
  have hsecond : byteAt 51 (storedBlob state) = 0 := byteAt_reserved _ _ Nat.one_lt_two
  have hlarge : headerSize ≤ requiredSize state := Nat.le_add_right _ _
  simp only [headerValid, Bool.and_eq_true, decide_eq_true_eq, hlength]
  obtain ⟨hversion, h6, h7, h14, h15⟩ := hfixed
  refine ⟨⟨⟨⟨⟨⟨⟨⟨⟨⟨⟨⟨⟨hlarge, requiredSize_le h⟩, take_magic _ _⟩, hversion⟩, hcount⟩, h6⟩, h7⟩, h14⟩, h15⟩,
    hfirst⟩, hsecond⟩, ?_⟩, hpayload⟩, hchecksum⟩
  exact hread.symm ▸ hpositive

theorem decodeBindingID_storedBlob (h : Valid state) :
    decodeBindingID (storedBlob state) = some state.bindingID := by
  have hfield : ((storedBlob state).drop 28).take bindingIDMax = encodeBindingID state := by
    rw [storedBlob, drop_bindingID]
    exact List.take_left' (length_encodeBindingID state)
  unfold decodeBindingID
  dsimp only
  rw [hfield]
  cases hbound : isBound state with
  | true =>
    have hrevision := hbound
    simp only [isBound, Bool.and_eq_true, decide_eq_true_eq] at hrevision
    have hread := @readAt_bindingRevision state (requiredSize state)
      (crc32WithZeroedChecksum (blobOf state (requiredSize state) 0))
      (hrevision.1.2.trans_lt (by decide))
    rw [storedBlob, hread, if_pos hrevision.1.1, encodeBindingID, if_pos hbound, cStringOf_bytes]
  | false =>
    obtain ⟨hrevision, hid, -⟩ := h.unbound hbound
    have hread := @readAt_bindingRevision state (requiredSize state)
      (crc32WithZeroedChecksum (blobOf state (requiredSize state) 0)) (by rw [hrevision]; decide)
    have hzero : encodeBindingID state = List.replicate bindingIDMax 0 := by
      rw [encodeBindingID, hbound, if_neg Bool.false_ne_true]
    rw [storedBlob, hread, hrevision, if_neg (Nat.lt_irrefl 0), hzero, if_pos (by decide)]
    exact congrArg some (CString.ext hid.symm)

/-- What is encoded is decoded. -/
theorem decode_storedBlob (h : Valid state) (hpositive : state.generation ≠ 0)
    (hgeneration : state.generation ≤ uint32Max) : decode (storedBlob state) = some state := by
  have hrevision : state.bindingRevision < 2 ^ 64 := by
    cases hbound : isBound state with
    | true =>
      simp only [isBound, Bool.and_eq_true, decide_eq_true_eq] at hbound
      exact hbound.1.2.trans_lt (by decide)
    | false => rw [(h.unbound hbound).1]; decide
  have hmagic : ¬ (20 ≤ (storedBlob state).length ∧
      (storedBlob state).take 4 = legacyFormatMagic) := by
    rintro ⟨-, hlegacy⟩
    rw [storedBlob, take_magic] at hlegacy
    exact absurd hlegacy (by decide)
  have hitems : decodeItems (fun _ _ => true) none (byteAt 5 (storedBlob state))
      ((storedBlob state).drop headerSize) = some (state.items, []) := by
    rw [storedBlob, byteAt_count _ _ h, drop_items]
    have hdecoded := decodeItems_flatMap hgeneration none h.items []
    rwa [List.append_nil] at hdecoded
  have hread : LittleEndian.readAt 8 4 (storedBlob state) = state.generation :=
    readAt_generation _ _ hgeneration
  have hreadRevision : LittleEndian.readAt 20 8 (storedBlob state) = state.bindingRevision :=
    readAt_bindingRevision _ _ hrevision
  rw [decode, if_neg hmagic, if_pos (headerValid_storedBlob h hpositive hgeneration),
    decodeBindingID_storedBlob h]
  dsimp only
  rw [hitems]
  dsimp only
  rw [hread, hreadRevision, if_pos (stateValid_persisted h hpositive)]

end Blob

/-! ## What is decoded -/

theorem valid_of_decode (h : decode input = some state) :
    Valid state ∧ state.generation ≠ 0 ∧ state.generation ≤ uint32Max := by
  have hle : LittleEndian.readAt 8 4 input ≤ uint32Max :=
    Nat.le_of_lt_succ (LittleEndian.readAt_lt 8 4 input)
  unfold decode at h
  split at h
  · unfold decodeLegacy at h
    split at h
    next hheader =>
      dsimp only at h
      split at h
      · cases h
        simp only [legacyHeaderValid, Bool.and_eq_true, decide_eq_true_eq] at hheader
        exact ⟨⟨Nat.zero_le _, fun _ => ⟨rfl, rfl, rfl⟩, fun _ => ⟨rfl, rfl, rfl⟩, nofun,
          List.Pairwise.nil⟩, hheader.1.1.2, hle⟩
      · cases h
    · cases h
  · grind [valid_of_persisted]

end XiaozhiPlatform.AgentMemory
