import XiaozhiPlatform.CLib.Ascii
import XiaozhiPlatform.CLib.SortedArray

/-!
# The agent memory of the device

`product_agent_memory_core`: a small table of preferences and profile entries that belongs to one
binding of the device to an account. Every operation checks the whole state first and either changes
nothing or moves to the next generation.

- `stateValid_iff`: the check of a state, as a property.
- `Effect`, `effect_serve`: what each operation can do.
-/

namespace XiaozhiPlatform.AgentMemory

open CLib GoLib

/-! ## Model -/

def maxItems : ℕ := 8

def keyMax : ℕ := 32

def valueMax : ℕ := 160

def bindingIDMax : ℕ := 22

/-- `UINT32_MAX`. -/
def uint32Max : ℕ := 2 ^ 32 - 1

/-- `product_agent_memory_core_result_t`. -/
inductive Result
  | ok
  | invalid
  | notFound
  | full
  | corrupt
  | diverged
  | generationExhausted
  | bufferTooSmall
  | bindingStale
deriving DecidableEq, Repr

/-- `product_agent_memory_core_item_t`. A category that was never checked can be any number. -/
structure Item where
  category : ℕ
  key : CString
  value : CString
  revision : ℕ
deriving DecidableEq

/-- `product_agent_memory_core_state_t`. The items are those below `count`. -/
structure State where
  generation : ℕ
  bindingID : CString
  bindingRevision : ℕ
  items : List Item
deriving DecidableEq

/-- `product_agent_memory_core_init`. -/
def State.init : State := ⟨0, ⟨[], nofun⟩, 0, []⟩

/-! ### Texts -/

/-- `valid_utf8_scalar`. -/
def validUtf8Scalar (scalar : ℕ) : Bool :=
  scalar ≤ 0x10ffff && !(0xd800 ≤ scalar && scalar ≤ 0xdfff) && scalar ≠ 0xfffe && scalar ≠ 0xffff

/-- A byte of the form `10xxxxxx`. -/
def isContinuation (byte : UInt8) : Bool := 0x80 ≤ byte && byte ≤ 0xbf

/-- The loop of `valid_single_line_utf8`. -/
def utf8Loop : List UInt8 → Bool
  | [] => true
  | first :: rest =>
    if first < 0x80 then
      if first < 0x20 ∨ first = 0x7f then false else utf8Loop rest
    else if 0xc2 ≤ first ∧ first ≤ 0xdf then
      match rest with
      | a :: rest =>
        let scalar := first.toNat % 32 * 64 + a.toNat % 64
        isContinuation a && 0x80 ≤ scalar && validUtf8Scalar scalar && utf8Loop rest
      | _ => false
    else if 0xe0 ≤ first ∧ first ≤ 0xef then
      match rest with
      | a :: b :: rest =>
        let scalar := (first.toNat % 16 * 64 + a.toNat % 64) * 64 + b.toNat % 64
        isContinuation a && isContinuation b && 0x800 ≤ scalar && validUtf8Scalar scalar &&
          utf8Loop rest
      | _ => false
    else if 0xf0 ≤ first ∧ first ≤ 0xf4 then
      match rest with
      | a :: b :: c :: rest =>
        let scalar :=
          ((first.toNat % 8 * 64 + a.toNat % 64) * 64 + b.toNat % 64) * 64 + c.toNat % 64
        isContinuation a && isContinuation b && isContinuation c && 0x10000 ≤ scalar &&
          validUtf8Scalar scalar && utf8Loop rest
      | _ => false
    else false

/-- `valid_single_line_utf8`. -/
def validSingleLineUtf8 (text : CString) (maximum : ℕ) : Bool :=
  text.bytes.length ≠ 0 && text.bytes.length ≤ maximum && utf8Loop text.bytes

/-- `strstr`. -/
def contains (text needle : List UInt8) : Bool := text.tails.any fun tail => needle.isPrefixOf tail

/-- `contains_ascii_case_insensitive` for a needle in lower case. -/
def containsAsciiCaseInsensitive (text needle : List UInt8) : Bool :=
  contains (text.map toLower) needle

/-- `category_valid`. -/
def categoryValid (category : ℕ) : Bool := category = 1 || category = 2

def blockedKeys : List String := [
  "password", "passwd", "secret", "token", "credential", "api_key", "private_key", "auth", "cookie",
  "pin", "ssn", "medical", "health", "biometric", "religion", "politic", "sexual", "financial",
  "payment", "card_number", "location", "address", "phone", "email"]

def isLower (byte : UInt8) : Bool := 97 ≤ byte && byte ≤ 122

/-- `product_agent_memory_core_key_allowed`. -/
def keyAllowed (key : CString) : Bool :=
  match key.bytes with
  | [] => false
  | first :: rest =>
    key.bytes.length ≤ keyMax && isLower first &&
      rest.all (fun byte => isLower byte || isDigit byte || byte = 95 || byte = 45 || byte = 46) &&
      blockedKeys.all fun needle => !contains key.bytes (bytesOf needle)

def blockedValues : List String := [
  "password=", "passwd=", "secret=", "token=", "api_key", "private_key", "bearer ", "-----begin "]

/-- `product_agent_memory_core_value_allowed`. -/
def valueAllowed (value : CString) : Bool :=
  validSingleLineUtf8 value valueMax &&
    blockedValues.all fun needle => !containsAsciiCaseInsensitive value.bytes (bytesOf needle)

def bindingAlphabet : List UInt8 :=
  bytesOf "ABCDEFGHIJKLMNOPQRSTUVWXYZabcdefghijklmnopqrstuvwxyz0123456789-_"

/-- `product_agent_memory_core_binding_id_allowed`. -/
def bindingIDAllowed (value : CString) : Bool :=
  value.bytes.length = bindingIDMax && value.bytes.all (· ∈ bindingAlphabet) &&
    value.bytes.getLast?.all fun last => bindingAlphabet.idxOf last % 16 = 0

/-! ### States -/

/-- `product_agent_memory_core_is_bound`. -/
def isBound (state : State) : Bool :=
  0 < state.bindingRevision && state.bindingRevision ≤ uint32Max && bindingIDAllowed state.bindingID

/-- The checks of one item in `state_valid`. -/
def itemValid (generation : ℕ) (item : Item) : Bool :=
  categoryValid item.category && keyAllowed item.key && valueAllowed item.value &&
    item.revision ≠ 0 && item.revision ≤ generation

/-- The loop over the items, with the item before. -/
def itemsValid (generation : ℕ) (previous : Option Item) : List Item → Bool
  | [] => true
  | item :: rest =>
    itemValid generation item && (previous.all fun p => p.key.unsigned < item.key.unsigned) &&
      itemsValid generation (some item) rest

/-- `state_valid`. -/
def stateValid (state : State) (persisted : Bool) : Bool :=
  state.items.length ≤ maxItems && !(persisted && state.generation = 0) &&
    !(!persisted && state.generation = 0 &&
      (state.items ≠ [] || state.bindingRevision ≠ 0 || state.bindingID.bytes ≠ [])) &&
    !(!isBound state &&
      (state.bindingRevision ≠ 0 || state.bindingID.bytes ≠ [] || state.items ≠ [])) &&
    itemsValid state.generation none state.items

/-! ### Operations

A string is nothing for a null pointer. -/

def itemKey (item : Item) : List ℕ := item.key.unsigned

/-- `product_agent_memory_core_find`. -/
def find (state : State) (key : Option CString) : Option Item :=
  match key with
  | some key =>
    if keyAllowed key = true then SortedArray.find itemKey key.unsigned state.items else none
  | none => none

/-- `next_generation`. -/
def nextGeneration (state : State) : Option ℕ :=
  if state.generation = uint32Max then none else some (state.generation + 1)

/-- `product_agent_memory_core_reconcile_binding`. -/
def reconcileBinding (state : State) (bindingID : Option CString) (bindingRevision : ℕ) :
    State × Result :=
  match bindingID with
  | none => (state, .invalid)
  | some bindingID =>
    if ¬ stateValid state false = true ∨ ¬ bindingIDAllowed bindingID = true ∨ bindingRevision = 0 ∨
        uint32Max < bindingRevision then (state, .invalid)
    else if isBound state = true ∧ (bindingRevision < state.bindingRevision ∨
        state.bindingRevision = bindingRevision ∧ state.bindingID ≠ bindingID) then
      (state, .bindingStale)
    else if isBound state = true ∧ state.bindingRevision = bindingRevision then (state, .ok)
    else
      match nextGeneration state with
      | none => (state, .generationExhausted)
      | some generation => (⟨generation, bindingID, bindingRevision, []⟩, .ok)

/-- The end of `product_agent_memory_core_put` for a key that the table does not have. -/
def insertNew (state : State) (generation category : ℕ) (key value : CString) : State × Result :=
  if state.items.length = maxItems then (state, .full)
  else
    ({ state with
      generation
      items := SortedArray.below itemKey state.items key.unsigned ++
        ⟨category, key, value, generation⟩ ::
          SortedArray.atOrAbove itemKey state.items key.unsigned }, .ok)

/-- `product_agent_memory_core_put`. -/
def put (state : State) (category : ℕ) (key value : Option CString) : State × Result :=
  match key, value with
  | some key, some value =>
    if ¬ stateValid state false = true ∨ ¬ isBound state = true ∨ ¬ categoryValid category = true ∨
        ¬ keyAllowed key = true ∨ ¬ valueAllowed value = true then (state, .invalid)
    else
      match nextGeneration state with
      | none => (state, .generationExhausted)
      | some generation =>
        match SortedArray.atOrAbove itemKey state.items key.unsigned with
        | old :: rest =>
          if old.key = key then
            ({ state with
              generation
              items := SortedArray.below itemKey state.items key.unsigned ++
                { old with category, value, revision := generation } :: rest }, .ok)
          else insertNew state generation category key value
        | [] => insertNew state generation category key value
  | _, _ => (state, .invalid)

/-- `product_agent_memory_core_forget`. -/
def forget (state : State) (key : Option CString) : State × Result :=
  match key with
  | none => (state, .invalid)
  | some key =>
    if ¬ stateValid state false = true ∨ ¬ isBound state = true ∨ ¬ keyAllowed key = true then
      (state, .invalid)
    else if ∀ item ∈ state.items, item.key ≠ key then (state, .notFound)
    else
      match nextGeneration state with
      | none => (state, .generationExhausted)
      | some generation =>
        ({ state with
          generation
          items := SortedArray.remove itemKey state.items key.unsigned }, .ok)

/-- `product_agent_memory_core_clear`. -/
def clear (state : State) : State × Result :=
  if ¬ stateValid state false = true ∨ ¬ isBound state = true then (state, .invalid)
  else
    match nextGeneration state with
    | none => (state, .generationExhausted)
    | some generation => ({ state with generation, items := [] }, .ok)

/-- A call of an operation that changes the state. -/
inductive Call
  | reconcileBinding (bindingID : Option CString) (bindingRevision : ℕ)
  | put (category : ℕ) (key value : Option CString)
  | forget (key : Option CString)
  | clear

def serve (state : State) : Call → State × Result
  | .reconcileBinding bindingID bindingRevision => reconcileBinding state bindingID bindingRevision
  | .put category key value => put state category key value
  | .forget key => forget state key
  | .clear => clear state

/-! ## Well-formed texts -/

/-- A character that `valid_single_line_utf8` lets through. -/
def SingleLine (c : Char) : Prop :=
  0x20 ≤ c.toNat ∧ c.toNat ≠ 0x7f ∧ c.toNat ≠ 0xfffe ∧ c.toNat ≠ 0xffff

/-- The loop reads the encoding of a character as one character. -/
theorem utf8Loop_encode (c : Char) (rest : List UInt8) :
    utf8Loop (String.utf8EncodeChar c ++ rest) = true ↔ SingleLine c ∧ utf8Loop rest = true := by
  have hvalid : c.toNat.isValidChar := c.valid
  unfold Nat.isValidChar at hvalid
  have hvalue : c.val.toNat = c.toNat := rfl
  have hbyte : ∀ m < 256, (UInt8.ofNat m).toNat = m := fun m => UInt8.toNat_ofNat_of_lt'
  rw [String.utf8EncodeChar, hvalue, SingleLine]
  generalize c.toNat = n at hvalid ⊢
  split
  · rw [List.singleton_append]
    conv_lhs => unfold utf8Loop
    simp only [UInt8.lt_iff_toNat_lt, ← UInt8.toNat_inj, hbyte n (by omega), UInt8.reduceToNat]
    rw [if_pos (by omega)]
    split <;> simp <;> omega
  have hlast := hbyte (n % 64 + 128) (by omega)
  split
  · simp only [List.cons_append, List.nil_append, utf8Loop, UInt8.lt_iff_toNat_lt,
      UInt8.le_iff_toNat_le, UInt8.reduceToNat, isContinuation, validUtf8Scalar, hlast,
      hbyte (n / 64 % 32 + 192) (by omega)]
    rw [if_neg (by omega), if_pos (by omega)]
    simp
    omega
  have hmiddle := hbyte (n / 64 % 64 + 128) (by omega)
  split
  · simp only [List.cons_append, List.nil_append, utf8Loop, UInt8.lt_iff_toNat_lt,
      UInt8.le_iff_toNat_le, UInt8.reduceToNat, isContinuation, validUtf8Scalar, hlast, hmiddle,
      hbyte (n / 4096 % 16 + 224) (by omega)]
    rw [if_neg (by omega), if_neg (by omega), if_pos (by omega)]
    simp
    omega
  · simp only [List.cons_append, List.nil_append, utf8Loop, UInt8.lt_iff_toNat_lt,
      UInt8.le_iff_toNat_le, UInt8.reduceToNat, isContinuation, validUtf8Scalar, hlast, hmiddle,
      hbyte (n / 4096 % 64 + 128) (by omega), hbyte (n / 262144 % 8 + 240) (by omega)]
    rw [if_neg (by omega), if_neg (by omega), if_neg (by omega), if_pos (by omega)]
    simp
    omega

theorem exists_char (h : validUtf8Scalar n = true) : ∃ c : Char, c.val.toNat = n := by
  have hvalid : n.isValidChar := by
    simp only [validUtf8Scalar, Bool.and_eq_true, decide_eq_true_eq, Bool.not_eq_true',
      Bool.and_eq_false_iff, decide_eq_false_iff_not] at h
    unfold Nat.isValidChar
    omega
  exact ⟨Char.ofNat n, (Char.toNat_ofNat n).trans (if_pos hvalid)⟩

/-- A text that passes starts with the encoding of a character. -/
theorem exists_encode (h : utf8Loop (first :: rest) = true) :
    ∃ c tail, first :: rest = String.utf8EncodeChar c ++ tail := by
  have hfirst := first.toNat_lt
  unfold utf8Loop at h
  simp only [UInt8.lt_iff_toNat_lt, UInt8.le_iff_toNat_le, UInt8.reduceToNat, isContinuation] at h
  split at h
  next hascii =>
    exact ⟨charOf first, rest, by rw [utf8_charOf (UInt8.lt_iff_toNat_lt.mpr hascii)]; rfl⟩
  split at h
  next hlead =>
    split at h
    next a tail =>
      simp only [Bool.and_eq_true, decide_eq_true_eq] at h
      obtain ⟨c, hc⟩ := exists_char h.1.2
      refine ⟨c, tail, ?_⟩
      rw [String.utf8EncodeChar, hc, if_neg (by omega), if_pos (by omega)]
      simp [← UInt8.toNat_inj]
      omega
    next => cases h
  split at h
  next hlead =>
    split at h
    next a b tail =>
      simp only [Bool.and_eq_true, decide_eq_true_eq] at h
      obtain ⟨c, hc⟩ := exists_char h.1.2
      refine ⟨c, tail, ?_⟩
      rw [String.utf8EncodeChar, hc, if_neg (by omega), if_neg (by omega), if_pos (by omega)]
      simp [← UInt8.toNat_inj]
      omega
    next => cases h
  split at h
  next hlead =>
    split at h
    next a b d tail =>
      simp only [Bool.and_eq_true, decide_eq_true_eq] at h
      obtain ⟨c, hc⟩ := exists_char h.1.2
      refine ⟨c, tail, ?_⟩
      rw [String.utf8EncodeChar, hc, if_neg (by omega), if_neg (by omega), if_neg (by omega)]
      simp [← UInt8.toNat_inj]
      omega
    next => cases h
  next => cases h

theorem utf8Loop_utf8 (chars : List Char) :
    utf8Loop (utf8 chars) = true ↔ ∀ c ∈ chars, SingleLine c := by
  induction chars with
  | nil => simp [utf8, utf8Loop]
  | cons c chars ih =>
    rw [List.forall_mem_cons, ← ih, utf8, List.flatMap_cons]
    exact utf8Loop_encode c _

theorem exists_utf8 (n : ℕ) : ∀ bytes : List UInt8, bytes.length ≤ n → utf8Loop bytes = true →
    ∃ chars, utf8 chars = bytes := by
  induction n with
  | zero =>
    intro bytes hlength _
    exact ⟨[], (List.length_eq_zero_iff.mp (Nat.le_zero.mp hlength)).symm⟩
  | succ n ih =>
    intro bytes hlength h
    cases bytes with
    | nil => exact ⟨[], rfl⟩
    | cons first rest =>
      obtain ⟨c, tail, heq⟩ := exists_encode h
      rw [heq] at hlength h ⊢
      have hwidth := c.utf8Size_pos
      rw [List.length_append, String.length_utf8EncodeChar] at hlength
      obtain ⟨chars, rfl⟩ := ih tail (by omega) ((utf8Loop_encode c tail).mp h).2
      exact ⟨c :: chars, rfl⟩

/-- `valid_single_line_utf8` accepts the texts that are not empty, keep to the limit and are the
UTF-8 encoding of characters without controls, U+FFFE and U+FFFF. -/
theorem validSingleLineUtf8_iff (text : CString) (maximum : ℕ) :
    validSingleLineUtf8 text maximum = true ↔ text.bytes ≠ [] ∧ text.bytes.length ≤ maximum ∧
      ∃ chars : List Char, utf8 chars = text.bytes ∧ ∀ c ∈ chars, 0x20 ≤ c.toNat ∧
        c.toNat ≠ 0x7f ∧ c.toNat ≠ 0xfffe ∧ c.toNat ≠ 0xffff := by
  have hloop : utf8Loop text.bytes = true ↔
      ∃ chars : List Char, utf8 chars = text.bytes ∧ ∀ c ∈ chars, SingleLine c := by
    constructor
    · intro h
      obtain ⟨chars, hchars⟩ := exists_utf8 _ text.bytes le_rfl h
      exact ⟨chars, hchars, (utf8Loop_utf8 chars).mp (hchars ▸ h)⟩
    · rintro ⟨chars, hchars, hlines⟩
      exact hchars ▸ (utf8Loop_utf8 chars).mpr hlines
  rw [validSingleLineUtf8, Bool.and_eq_true, Bool.and_eq_true, decide_eq_true_eq,
    decide_eq_true_eq, hloop, and_assoc, ne_eq, List.length_eq_zero_iff]
  rfl

/-! ## The check of a state -/

/-- What `state_valid` has checked of a state that need not be stored. -/
structure Valid (state : State) : Prop where
  count : state.items.length ≤ maxItems
  fresh : state.generation = 0 →
    state.items = [] ∧ state.bindingRevision = 0 ∧ state.bindingID.bytes = []
  unbound : isBound state = false →
    state.bindingRevision = 0 ∧ state.bindingID.bytes = [] ∧ state.items = []
  items : ∀ item ∈ state.items, itemValid state.generation item = true
  sorted : SortedArray.Sorted itemKey state.items

variable {generation : ℕ}

theorem itemsValid_iff : itemsValid
    generation previous items = true ↔ (∀ item ∈ items, itemValid generation item = true) ∧
    (SortedArray.Sorted itemKey items ∧ ∀ p ∈ previous, ∀ first ∈ items.head?, itemKey p < itemKey
    first) := by
  induction items generalizing previous with
  | nil => simp [itemsValid, SortedArray.Sorted]
  | cons item rest ih =>
    rw [itemsValid, Bool.and_eq_true, Bool.and_eq_true, ih]
    cases rest with
    | nil => cases previous <;> simp [SortedArray.Sorted, itemKey]
    | cons next rest =>
      rw [SortedArray.sorted_cons_cons]
      cases previous <;> simp [itemKey] <;> tauto

theorem stateValid_iff : stateValid state false = true ↔ Valid state := by
  simp only [stateValid, Bool.and_eq_true, itemsValid_iff, Option.mem_def, reduceCtorEq, false_imp_iff,
    implies_true, and_true, Bool.false_and, Bool.not_false, Bool.true_and, Bool.not_eq_true',
    Bool.and_eq_false_iff, Bool.or_eq_false_iff, decide_eq_true_eq, decide_eq_false_iff_not,
    Bool.not_eq_false', ne_eq, not_not]
  constructor
  · rintro ⟨⟨⟨hcount, hfresh⟩, hunbound⟩, hitems, hsorted⟩
    refine ⟨hcount, ?_, ?_, hitems, hsorted⟩
    · grind
    · grind
  · rintro ⟨hcount, hfresh, hunbound, hitems, hsorted⟩
    refine ⟨⟨⟨hcount, ?_⟩, ?_⟩, hitems, hsorted⟩
    · grind
    · grind

theorem valid_init : Valid .init := stateValid_iff.mp (by decide)

theorem itemValid_mono (hle : generation ≤ later)
    (h : itemValid generation item = true) : itemValid later item = true := by grind [itemValid]

theorem valid_of_bound
    (hbound : isBound state = true) (hpositive : generation ≠ 0) (hcount : items.length ≤ maxItems)
    (hitems : ∀ item ∈ items, itemValid generation item = true)
    (hsorted : SortedArray.Sorted itemKey items) :
    Valid { state with generation, items } where
  count := hcount
  fresh hzero := absurd hzero hpositive
  unbound hnot := by
    have hsame : isBound { state with generation, items } = isBound state := rfl
    rw [hsame, hbound] at hnot
    cases hnot
  items := hitems
  sorted := hsorted

/-! ## What the operations do -/

/-- The table that a key is stored in, or forgotten from: the other keys keep their items. -/
structure Stored (before after : List Item) (key : CString) (item : Option Item) : Prop where
  sorted : SortedArray.Sorted itemKey after
  count : after.length ≤ maxItems
  lookup_self : SortedArray.lookup itemKey after key.unsigned = item
  lookup_other : ∀ other ≠ key.unsigned,
    SortedArray.lookup itemKey after other = SortedArray.lookup itemKey before other
  mem : ∀ other ∈ after, other ∈ before ∨ other ∈ item

/-- What an operation can do: refuse, keep the binding that the state has, or move to the next
generation with another binding, an item more, an item less or no items. -/
inductive Effect (state : State) : Call → State × Result → Prop
  | refused {call : Call} {result : Result} (hresult : result ≠ .ok) : Effect state call (state, result)
  | kept {bindingID : CString} (hbound : isBound state = true) (hid : state.bindingID = bindingID) :
      Effect state (.reconcileBinding (some bindingID) state.bindingRevision) (state, .ok)
  | bound {bindingID : CString} {bindingRevision : ℕ} (hvalid : Valid state)
      (hid : bindingIDAllowed bindingID = true)
      (hrevision : 0 < bindingRevision ∧ bindingRevision ≤ uint32Max)
      (hnewer : isBound state = true → state.bindingRevision < bindingRevision)
      (hroom : state.generation ≠ uint32Max) :
      Effect state (.reconcileBinding (some bindingID) bindingRevision)
        (⟨state.generation + 1, bindingID, bindingRevision, []⟩, .ok)
  | stored {category : ℕ} {key value : CString} {items : List Item} (hvalid : Valid state)
      (hbound : isBound state = true) (hcategory : categoryValid category = true)
      (hkey : keyAllowed key = true) (hvalue : valueAllowed value = true)
      (hroom : state.generation ≠ uint32Max)
      (hstored : Stored state.items items key
        (some ⟨category, key, value, state.generation + 1⟩)) :
      Effect state (.put category (some key) (some value))
        ({ state with generation := state.generation + 1, items }, .ok)
  | forgotten {key : CString} {items : List Item} (hvalid : Valid state) (hbound : isBound state = true)
      (hroom : state.generation ≠ uint32Max) (hstored : Stored state.items items key none) :
      Effect state (.forget (some key)) ({ state with generation := state.generation + 1, items }, .ok)
  | cleared (hvalid : Valid state) (hbound : isBound state = true)
      (hroom : state.generation ≠ uint32Max) :
      Effect state .clear ({ state with generation := state.generation + 1, items := [] }, .ok)

variable {key : CString}

section Effects

variable (state : State)

theorem nextGeneration_cases : (state.generation = uint32Max ∧ nextGeneration state = none) ∨
    (state.generation ≠ uint32Max ∧ nextGeneration state = some (state.generation + 1)) := by
  grind [nextGeneration]

theorem effect_reconcileBinding (bindingID : Option CString) (bindingRevision : ℕ) :
    Effect state (.reconcileBinding bindingID bindingRevision)
      (reconcileBinding state bindingID bindingRevision) := by
  unfold reconcileBinding
  cases bindingID with
  | none => exact .refused (by decide)
  | some bindingID =>
    dsimp only
    split
    · exact .refused (by decide)
    next hargs =>
      simp only [not_or, not_not, not_lt] at hargs
      obtain ⟨hvalid, hid, hpositive, hmaximum⟩ := hargs
      split
      · exact .refused (by decide)
      next hstale =>
        split
        next hkept =>
          obtain ⟨hbound, rfl⟩ := hkept
          refine .kept hbound ?_
          by_contra hother
          exact hstale ⟨hbound, .inr ⟨rfl, hother⟩⟩
        next hnotKept =>
          rcases nextGeneration_cases state with ⟨-, hnext⟩ | ⟨hroom, hnext⟩ <;> rw [hnext]
          · exact .refused (by decide)
          · refine .bound (stateValid_iff.mp hvalid) hid ⟨Nat.pos_of_ne_zero hpositive, hmaximum⟩ ?_ hroom
            intro hbound
            have hle : state.bindingRevision ≤ bindingRevision := by grind
            exact lt_of_le_of_ne hle fun heq => hnotKept ⟨hbound, heq⟩

variable {state}

theorem stored_replace (hvalid : Valid state)
    (hplace : SortedArray.atOrAbove itemKey state.items key.unsigned = old :: rest) (hold : old.key
    = key) (hitem : item.key = key) : Stored state.items (SortedArray.below itemKey state.items
    key.unsigned ++ item :: rest) key (some item) := by
  have hitems : SortedArray.below itemKey state.items key.unsigned ++ _ = state.items :=
    SortedArray.below_append_atOrAbove state.items key.unsigned
  rw [hplace] at hitems
  have hkey : itemKey item = key.unsigned := congrArg CString.unsigned hitem
  have holdKey : itemKey old = key.unsigned := congrArg CString.unsigned hold
  refine ⟨SortedArray.sorted_replace hvalid.sorted hkey hplace holdKey, ?_, ?_, ?_, ?_⟩
  · have hcount := hvalid.count
    rw [← hitems] at hcount
    simpa using hcount
  · rw [SortedArray.lookup_replace hkey hplace holdKey, if_pos rfl]
  · grind [SortedArray.lookup_replace]
  · grind

theorem stored_insert (hvalid : Valid state)
    (hplace : ∀ first ∈ (SortedArray.atOrAbove itemKey state.items key.unsigned).head?, first.key ≠
    key)
    (hroom : state.items.length ≠ maxItems) (hitem : item.key = key) :
    Stored state.items (SortedArray.below itemKey state.items key.unsigned ++
      item :: SortedArray.atOrAbove itemKey state.items key.unsigned) key (some item) := by
  have hitems : SortedArray.below itemKey state.items key.unsigned ++ _ = state.items :=
    SortedArray.below_append_atOrAbove state.items key.unsigned
  have hkey : itemKey item = key.unsigned := congrArg CString.unsigned hitem
  have hnew : ∀ other ∈ state.items, itemKey other ≠ key.unsigned :=
    SortedArray.ne_of_place hvalid.sorted fun first hfirst heq =>
      hplace first hfirst (CString.unsigned_injective heq)
  refine ⟨SortedArray.sorted_insert hvalid.sorted hkey hnew, ?_, ?_, ?_, ?_⟩
  · have hcount := hvalid.count
    have hlength := congrArg List.length hitems
    rw [List.length_append] at hlength
    rw [List.length_append, List.length_cons]
    omega
  · rw [SortedArray.lookup_insert hkey hnew, if_pos rfl]
  · grind [SortedArray.lookup_insert]
  · grind

theorem effect_insertNew (hvalid : Valid state) (hbound :
    isBound state = true) (hcategory : categoryValid category = true) (hkey : keyAllowed key = true)
    (hvalue : valueAllowed value = true) (hroom : state.generation ≠ uint32Max) (hplace : ∀ first ∈
    (SortedArray.atOrAbove itemKey state.items key.unsigned).head?, first.key ≠ key) : Effect state
    (.put category (some key) (some value)) (insertNew state (state.generation + 1) category key
    value) := by
  unfold insertNew
  split
  · exact .refused (by decide)
  next hcount =>
    exact .stored hvalid hbound hcategory hkey hvalue hroom (stored_insert hvalid hplace hcount rfl)

variable (state)

theorem effect_put (category : ℕ) (key value : Option CString) :
    Effect state (.put category key value) (put state category key value) := by
  unfold put
  split
  next key value =>
    split
    · exact .refused (by decide)
    next hargs =>
      simp only [not_or, not_not] at hargs
      obtain ⟨hstate, hbound, hcategory, hkey, hvalue⟩ := hargs
      have hvalid := stateValid_iff.mp hstate
      rcases nextGeneration_cases state with ⟨-, hnext⟩ | ⟨hroom, hnext⟩ <;> rw [hnext]
      · exact .refused (by decide)
      · dsimp only
        split
        next old rest hplace =>
          split
          next hold =>
            subst hold
            exact .stored hvalid hbound hcategory hkey hvalue hroom
              (stored_replace hvalid hplace rfl rfl)
          next hold => grind [effect_insertNew]
        next hplace => grind [effect_insertNew]
  · exact .refused (by decide)

theorem effect_forget (key : Option CString) : Effect state (.forget key) (forget state key) := by
  unfold forget
  cases key with
  | none => exact .refused (by decide)
  | some key =>
    dsimp only
    split
    · exact .refused (by decide)
    next hargs =>
      simp only [not_or, not_not] at hargs
      obtain ⟨hstate, hbound, -⟩ := hargs
      have hvalid := stateValid_iff.mp hstate
      split
      · exact .refused (by decide)
      · rcases nextGeneration_cases state with ⟨-, hnext⟩ | ⟨hroom, hnext⟩ <;> rw [hnext]
        · exact .refused (by decide)
        · refine .forgotten hvalid hbound hroom
            ⟨SortedArray.sorted_remove hvalid.sorted _, ?_, ?_, ?_, ?_⟩
          · exact List.eraseP_sublist.length_le.trans hvalid.count
          · rw [SortedArray.lookup_remove hvalid.sorted, if_pos rfl]
          · intro other hother
            rw [SortedArray.lookup_remove hvalid.sorted, if_neg hother]
          · exact fun other hother => .inl (List.mem_of_mem_eraseP hother)

theorem effect_clear : Effect state .clear (clear state) := by
  unfold clear
  split
  · exact .refused (by decide)
  next hargs =>
    simp only [not_or, not_not] at hargs
    rcases nextGeneration_cases state with ⟨-, hnext⟩ | ⟨hroom, hnext⟩ <;> rw [hnext]
    · exact .refused (by decide)
    · exact .cleared (stateValid_iff.mp hargs.1) hargs.2 hroom

/-- Every call has one of the effects. -/
theorem effect_serve (call : Call) : Effect state call (serve state call) := by
  cases call with
  | reconcileBinding bindingID bindingRevision =>
    exact effect_reconcileBinding state bindingID bindingRevision
  | put category key value => exact effect_put state category key value
  | forget key => exact effect_forget state key
  | clear => exact effect_clear state

end Effects

end XiaozhiPlatform.AgentMemory
