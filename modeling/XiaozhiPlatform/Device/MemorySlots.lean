import XiaozhiPlatform.Device.MemoryFormat
import XiaozhiPlatform.Device.MemoryRuns

/-!
# The two slots of the agent memory

`product_agent_memory` keeps the blob of its state in two slots of the flash. An update writes the
slot of the parity of its generation first and the other one second, so the slot that is written
second is the one in which the state from before the update was written first.

- `selectSlots_of_held`: what is read when one slot holds a state and the other one nothing newer.
- `held_serve`: the slot of the parity keeps the state.
- `interrupted_update`: an interrupted first write loses nothing.
-/

namespace XiaozhiPlatform.AgentMemory

open CLib GoLib

/-! ## Model -/

/-- What the flash holds under the key of a slot. -/
inductive StoredSlot
  | absent
  | mismatched
  | blob (bytes : List UInt8)
deriving DecidableEq

/-- `load_slot`: an entry that cannot be a blob of ours is read as one byte that decodes to
nothing. -/
def loadSlot : StoredSlot → List UInt8
  | .absent => []
  | .mismatched => [0]
  | .blob bytes => if bytes.length = 0 ∨ blobMax < bytes.length then [0] else bytes

/-- The error codes of the operations. -/
inductive EspError
  | ok
  | invalidArg
  | notFound
  | noMem
  | invalidCrc
  | invalidSize
  | invalidState
  | nvs
deriving DecidableEq, Repr

/-- `core_error`. -/
def coreError : Result → EspError
  | .ok => .ok
  | .notFound => .notFound
  | .full => .noMem
  | .corrupt => .invalidCrc
  | .bufferTooSmall => .invalidSize
  | .diverged | .generationExhausted | .bindingStale => .invalidState
  | .invalid => .invalidArg

/-- `struct product_agent_memory`, with the flash that its handle is open on. -/
structure Memory where
  slots : Bool → StoredSlot
  state : State
  mutationsThisBoot : ℕ
  mirrorFailures : ℕ
  degraded : Bool

/-- What `product_agent_memory_core_select` reads from the flash. -/
def selectSlots (slots : Bool → StoredSlot) : Except Result (State × Selection) :=
  select (loadSlot (slots false)) (loadSlot (slots true))

/-- `product_agent_memory_open`. -/
def openMemory (slots : Bool → StoredSlot) : Except EspError Memory :=
  match selectSlots slots with
  | .error result => .error (coreError result)
  | .ok (state, selection) => .ok ⟨slots, state, 0, 0, selection.degraded⟩

/-- How a write with its commit ends: a failed one leaves something in the slot. -/
inductive Write
  | stored
  | failed (left : StoredSlot)
deriving DecidableEq

/-- The slot that an update to the state writes first. -/
def primary (candidate : State) : Bool := candidate.generation % 2 = 1

/-- `persist_locked`. -/
def persistLocked (memory : Memory) (candidate : State) (first second : Write) :
    Memory × EspError :=
  match encode candidate blobMax with
  | .error result => (memory, coreError result)
  | .ok blob =>
    match first with
    | .failed left =>
      ({ memory with slots := Function.update memory.slots (primary candidate) left }, .nvs)
    | .stored =>
      let slots := Function.update memory.slots (primary candidate) (.blob blob)
      match second with
      | .stored =>
        ({ memory with
          slots := Function.update slots (!primary candidate) (.blob blob)
          state := candidate
          mutationsThisBoot := memory.mutationsThisBoot + 1
          degraded := false }, .ok)
      | .failed left =>
        ({ slots := Function.update slots (!primary candidate) left
           state := candidate
           mutationsThisBoot := memory.mutationsThisBoot + 1
           mirrorFailures := memory.mirrorFailures + 1
           degraded := true }, .ok)

def mutationsPerBootLimit : ℕ := 128

/-- `begin_mutation`. -/
def beginMutation (memory : Memory) : Except EspError State :=
  if mutationsPerBootLimit ≤ memory.mutationsThisBoot then .error .invalidState
  else .ok memory.state

/-- The part of `product_agent_memory_put`, `_forget` and `_clear` in front of `persist_locked`. -/
def mutation (memory : Memory) (operation : State → State × Result) :
    Except EspError (Option State) :=
  if ¬ isBound memory.state = true then .error .invalidState
  else
    match beginMutation memory with
    | .error error => .error error
    | .ok candidate =>
      match operation candidate with
      | (candidate, .ok) => .ok (some candidate)
      | (_, result) => .error (coreError result)

/-- The part of the operations in front of `persist_locked`: the candidate that is persisted, and
nothing if there is nothing to persist. -/
def prepare (memory : Memory) : Call → Except EspError (Option State)
  | .reconcileBinding (some bindingID) bindingRevision =>
    match reconcileBinding memory.state (some bindingID) bindingRevision with
    | (candidate, .ok) =>
      .ok (if candidate.generation = memory.state.generation then none else some candidate)
    | (_, result) => .error (coreError result)
  | .put category (some key) (some value) =>
    mutation memory fun state => put state category (some key) (some value)
  | .forget (some key) => mutation memory fun state => forget state (some key)
  | .clear => mutation memory clear
  | _ => .error .invalidArg

/-- A call with the ends of its writes. -/
structure Update where
  call : Call
  first : Write
  second : Write

/-- `product_agent_memory_reconcile_binding`, `_put`, `_forget` and `_clear`. -/
def serveMemory (memory : Memory) (update : Update) : Memory × EspError :=
  match prepare memory update.call with
  | .error error => (memory, error)
  | .ok none => (memory, .ok)
  | .ok (some candidate) => persistLocked memory candidate update.first update.second

/-- The flash after the first write of an update was interrupted. -/
def interruptedSlots (memory : Memory) (candidate : State) (left : StoredSlot) : Bool → StoredSlot :=
  Function.update memory.slots (primary candidate) left

/-! ## Candidates -/

variable {state : State}

section Candidates

variable {memory : Memory} {candidate : State}

/-- A state that can be stored. -/
structure Storable (state : State) : Prop where
  valid : Valid state
  fits : state.generation ≤ uint32Max

theorem storable_init : Storable .init := ⟨valid_init, Nat.zero_le _⟩

theorem storable_of_decode (h : decode input = some state) : Storable state :=
  ⟨(valid_of_decode h).1, (valid_of_decode h).2.2⟩

theorem generation_serve (h : Storable state) (hserve : serve
    state call = (after, .ok)) : Storable after ∧ (after.generation = state.generation ∨
    after.generation = state.generation + 1) := by
  have hvalid := valid_serve h.valid call
  have heffect := effect_serve state call
  rw [hserve] at hvalid heffect
  have hstep : ∀ next : State, Valid next → next.generation = state.generation + 1 →
      state.generation ≠ uint32Max →
      Storable next ∧
        (next.generation = state.generation ∨ next.generation = state.generation + 1) := by
    intro next hnext hgeneration hroom
    have hfits := h.fits
    exact ⟨⟨hnext, by omega⟩, .inr hgeneration⟩
  cases heffect with
  | refused hresult => exact absurd rfl hresult
  | kept => exact ⟨h, .inl rfl⟩
  | bound _ _ _ _ hroom | stored _ _ _ _ _ hroom | forgotten _ _ hroom | cleared _ _ hroom =>
    exact hstep _ hvalid rfl hroom

theorem mutation_spec {operation : State → State × Result} (h : mutation memory operation = .ok
    (some candidate)) : operation memory.state = (candidate, .ok) := by
  unfold mutation at h
  split at h
  · cases h
  split at h
  · cases h
  next hbegin => grind [beginMutation]

theorem prepare_spec (h : prepare memory call = .ok (some candidate))
    (hstorable : Storable memory.state) :
    Storable candidate ∧ candidate.generation = memory.state.generation + 1 := by
  have hmoved : ∀ call : Call, serve memory.state call = (candidate, .ok) →
      candidate.generation ≠ memory.state.generation →
      Storable candidate ∧ candidate.generation = memory.state.generation + 1 := by
    grind [generation_serve]
  -- an operation other than a reconciliation that succeeds always moves
  have hchanged : ∀ call : Call, serve memory.state call = (candidate, .ok) →
      (∀ bindingID bindingRevision, call ≠ .reconcileBinding bindingID bindingRevision) →
      Storable candidate ∧ candidate.generation = memory.state.generation + 1 := by
    intro call hserve hother
    refine hmoved call hserve ?_
    have heffect := effect_serve memory.state call
    rw [hserve] at heffect
    cases heffect with
    | refused hresult => exact absurd rfl hresult
    | kept | bound => exact absurd rfl (hother _ _)
    | stored | forgotten | cleared => exact Nat.succ_ne_self _
  unfold prepare at h
  split at h
  next bindingID bindingRevision =>
    split at h
    next next heq =>
      have hsome := Except.ok.inj h
      split at hsome
      · cases hsome
      next hne =>
        cases hsome
        exact hmoved (.reconcileBinding (some bindingID) bindingRevision) heq hne
    · cases h
  next category key value =>
    exact hchanged (.put category (some key) (some value)) (mutation_spec h) nofun
  next key => exact hchanged (.forget (some key)) (mutation_spec h) nofun
  · exact hchanged .clear (mutation_spec h) nofun
  · cases h

theorem primary_of_succ
    (h : candidate.generation = state.generation + 1) : primary candidate = !primary state := by
  grind [primary]

end Candidates

/-! ## Selection -/

section Selection

variable {slots : Bool → StoredSlot} {side : Bool} {state : State}

/-- The state that a slot holds. -/
def slotState (slots : Bool → StoredSlot) (side : Bool) : Option State :=
  decodeSlot (loadSlot (slots side))

/-- A slot holds no state that is newer, nor another one of the same generation. -/
def NotNewer (slots : Bool → StoredSlot) (side : Bool) (state : State) : Prop :=
  ∀ other, slotState slots (!side) = some other → other.generation < state.generation ∨
    other.generation = state.generation ∧ loadSlot (slots (!side)) = loadSlot (slots side)

theorem selectSlots_of_held (hheld : slotState slots side = some state) (hother : NotNewer slots
    side state) : ∃ selection, selectSlots slots = .ok (state, selection) := by
  unfold NotNewer slotState at hother
  unfold slotState at hheld
  cases side with
  | false =>
    rw [Bool.not_false] at hother
    cases hdecoded : decodeSlot (loadSlot (slots true)) with
    | none => exact ⟨_, by rw [selectSlots, select, hheld, hdecoded]⟩
    | some other =>
      rcases hother other hdecoded with hlt | ⟨heq, hsame⟩
      · rw [selectSlots, select, hheld, hdecoded]
        dsimp only
        rw [if_neg hlt.ne', if_neg (not_lt.mpr hlt.le)]
        exact ⟨_, rfl⟩
      · rw [selectSlots, select, hheld, hdecoded]
        dsimp only
        rw [if_pos heq.symm, if_pos hsame.symm]
        exact ⟨_, rfl⟩
  | true =>
    rw [Bool.not_true] at hother
    cases hdecoded : decodeSlot (loadSlot (slots false)) with
    | none => exact ⟨_, by rw [selectSlots, select, hheld, hdecoded]⟩
    | some other =>
      rcases hother other hdecoded with hlt | ⟨heq, hsame⟩
      · rw [selectSlots, select, hheld, hdecoded]
        dsimp only
        rw [if_neg hlt.ne, if_pos hlt]
        exact ⟨_, rfl⟩
      · -- the same bytes decode to the same state
        rw [hsame, hheld] at hdecoded
        cases hdecoded
        rw [selectSlots, select, hsame, hheld]
        dsimp only
        rw [if_pos rfl, if_pos rfl]
        exact ⟨_, rfl⟩

/-- What is selected is the initial state of an empty flash, or the state of a slot while the other
slot holds nothing newer. -/
theorem selectSlots_cases (hselect : selectSlots slots = .ok (state,
    selection)) : (state = .init ∧ ∀ side, slotState slots side = none) ∨ ∃ side, slotState slots
    side = some state ∧ NotNewer slots side state := by
  unfold selectSlots select at hselect
  dsimp only at hselect
  split at hselect
  next hnone0 hnone1 =>
    split at hselect
    · cases hselect
      exact .inl ⟨rfl, Bool.rec hnone0 hnone1⟩
    · cases hselect
  next state0 state1 hsome0 hsome1 =>
    split at hselect
    next heq =>
      split at hselect
      next hsame =>
        cases hselect
        refine .inr ⟨false, hsome0, ?_⟩
        intro other hother
        cases hsome1.symm.trans hother
        exact .inr ⟨heq.symm, hsame.symm⟩
      · cases hselect
    next hne =>
      split at hselect
      next hlt =>
        cases hselect
        refine .inr ⟨true, hsome1, ?_⟩
        intro other hother
        cases hsome0.symm.trans hother
        exact .inl hlt
      next hle =>
        cases hselect
        refine .inr ⟨false, hsome0, ?_⟩
        intro other hother
        cases hsome1.symm.trans hother
        exact .inl (by omega)
  next hsome0 hnone1 =>
    cases hselect
    refine .inr ⟨false, hsome0, ?_⟩
    intro other hother
    cases hnone1.symm.trans hother
  next hnone0 hsome1 =>
    cases hselect
    refine .inr ⟨true, hsome1, ?_⟩
    intro other hother
    cases hnone0.symm.trans hother

theorem storable_of_slotState (h : slotState slots side = some state) : Storable state := by
  unfold slotState decodeSlot at h
  split at h
  · cases h
  · exact storable_of_decode h

section

variable {selection : Selection} (hselect : selectSlots slots = .ok (state, selection))

include hselect

theorem storable_of_selectSlots : Storable state := by
  grind [selectSlots_cases, storable_init, storable_of_slotState]

theorem generation_le_of_selectSlots
    (hother : slotState slots side = some other) : other.generation ≤ state.generation := by
  rcases selectSlots_cases hselect with ⟨-, hnone⟩ | ⟨selected, hheld, hnewer⟩
  · cases (hnone side).symm.trans hother
  · by_cases hside : side = selected
    · grind
    · obtain rfl : side = !selected := Bool.eq_not_of_ne hside
      rcases hnewer other hother with hlt | ⟨heq, -⟩
      · exact hlt.le
      · exact heq.le

theorem notNewer_of_selectSlots (hheld : slotState slots side = some state) :
    NotNewer slots side state := by
  rcases selectSlots_cases hselect with ⟨-, hnone⟩ | ⟨selected, hselected, hnewer⟩
  · cases (hnone side).symm.trans hheld
  · by_cases hside : side = selected
    · exact hside ▸ hnewer
    · obtain rfl : side = !selected := Bool.eq_not_of_ne hside
      intro other hother
      rw [Bool.not_not] at hother ⊢
      cases hselected.symm.trans hother
      rcases hnewer _ hheld with hlt | ⟨-, hsame⟩
      · exact absurd hlt (Nat.lt_irrefl _)
      · exact .inr ⟨rfl, hsame.symm⟩

end

end Selection

/-! ## Updates -/

section Updates

variable {memory : Memory} {candidate : State} {update : Update}

theorem loadSlot_storedBlob (h : Storable candidate) :
    loadSlot (.blob (storedBlob candidate)) = storedBlob candidate := by
  have hlength : (storedBlob candidate).length = requiredSize candidate := length_blobOf _ _ _
  have hpositive : headerSize ≤ requiredSize candidate := Nat.le_add_right _ _
  have hfits := requiredSize_le h.valid
  refine if_neg ?_
  rw [hlength]
  simp only [headerSize] at hpositive
  omega

theorem decodeSlot_storedBlob (h : Storable candidate) (hpositive : candidate.generation ≠ 0) :
    decodeSlot (loadSlot (.blob (storedBlob candidate))) = some candidate := by
  have hlength : (storedBlob candidate).length = requiredSize candidate := length_blobOf _ _ _
  have hsize : headerSize ≤ requiredSize candidate := Nat.le_add_right _ _
  rw [loadSlot_storedBlob h, decodeSlot, if_neg, decode_storedBlob h.valid hpositive h.fits]
  intro hnil
  rw [hnil, List.length_nil] at hlength
  rw [← hlength] at hsize
  exact absurd hsize (by decide)

/-- What an update can leave of the memory. -/
inductive Outcome (memory : Memory) (update : Update) : Memory → Prop
  | unchanged : Outcome memory update memory
  | failed {candidate : State} {left : StoredSlot}
      (hprepare : prepare memory update.call = .ok (some candidate))
      (hfirst : update.first = .failed left) :
      Outcome memory update
        { memory with slots := Function.update memory.slots (primary candidate) left }
  | persisted {candidate : State} {after : Memory}
      (hprepare : prepare memory update.call = .ok (some candidate)) (hstate : after.state = candidate)
      (hprimary : after.slots (primary candidate) = .blob (storedBlob candidate))
      (hmirror : after.slots (!primary candidate) = .blob (storedBlob candidate) ∨
        update.second = .failed (after.slots (!primary candidate))) :
      Outcome memory update after

theorem outcome_serveMemory (h : Storable memory.state) (update : Update) :
    Outcome memory update (serveMemory memory update).1 := by
  unfold serveMemory
  split
  · exact .unchanged
  · exact .unchanged
  next candidate hprepare =>
    obtain ⟨hcandidate, hgeneration⟩ := prepare_spec hprepare h
    have hside : (!primary candidate) ≠ primary candidate := Bool.not_ne_self _
    unfold persistLocked
    rw [encode_eq_ok hcandidate.valid (by omega)]
    dsimp only
    split
    next left hfirst => exact .failed hprepare hfirst
    next hfirst =>
      split
      next hsecond =>
        refine .persisted hprepare rfl ?_ (.inl ?_)
        · grind
        · exact Function.update_self ..
      next left hsecond =>
        refine .persisted hprepare rfl ?_ (.inr ?_)
        · grind
        · grind

/-- What a write that did not come to its end leaves: the old entry, or one that decodes to nothing. -/
def Torn (old left : StoredSlot) : Prop := left = old ∨ decodeSlot (loadSlot left) = none

/-- The failures of the writes of an update. The second write may also have been made. -/
def TornWrites (memory : Memory) (update : Update) : Prop :=
  ∀ candidate, prepare memory update.call = .ok (some candidate) →
    (∀ left, update.first = .failed left → Torn (memory.slots (primary candidate)) left) ∧
      ∀ left, update.second = .failed left →
        Torn (memory.slots (!primary candidate)) left ∨ left = .blob (storedBlob candidate)

/-- No slot holds a state that is newer than the one in use. -/
structure Current (memory : Memory) : Prop where
  storable : Storable memory.state
  newest : ∀ side other, slotState memory.slots side = some other →
    other.generation ≤ memory.state.generation

/-- The slot that the next update writes second holds the state in use. -/
structure Held (memory : Memory) : Prop where
  held : slotState memory.slots (primary memory.state) = some memory.state
  notNewer : NotNewer memory.slots (primary memory.state) memory.state

theorem update_of_torn {slots : Bool → StoredSlot} (h : Torn
    (slots side) left) : Function.update slots side left = slots ∨ slotState (Function.update slots
    side left) side = none := by
  rcases h with rfl | hnone
  · exact .inl (Function.update_eq_self ..)
  · grind [slotState]

section

variable (h : Current memory) (htorn : TornWrites memory update)

include h htorn

theorem held_of_persisted
    (hprepare : prepare memory update.call = .ok (some candidate)) (hstate : after.state =
    candidate) (hprimary : after.slots (primary candidate) = .blob (storedBlob candidate)) (hmirror
    : after.slots (!primary candidate) = .blob (storedBlob candidate) ∨ update.second = .failed
    (after.slots (!primary candidate))) : Current after ∧ Held after := by
  subst hstate
  obtain ⟨hstorable, hgeneration⟩ := prepare_spec hprepare h.storable
  have hheld : slotState after.slots (primary after.state) = some after.state := by
    rw [slotState, hprimary]
    exact decodeSlot_storedBlob hstorable (by omega)
  have hsame : after.slots (!primary after.state) = .blob (storedBlob after.state) →
      NotNewer after.slots (primary after.state) after.state := by
    intro hblob other hother
    rw [slotState, hblob, ← hprimary, ← slotState, hheld] at hother
    cases hother
    exact .inr ⟨rfl, by rw [hblob, hprimary]⟩
  have hnotNewer : NotNewer after.slots (primary after.state) after.state := by
    rcases hmirror with hblob | hfailed
    · exact hsame hblob
    rcases (htorn _ hprepare).2 _ hfailed with htorn | hblob
    · intro other hother
      rcases htorn with hold | hnone
      · -- the old entry belongs to an older generation
        rw [slotState, hold] at hother
        have hle := h.newest _ other hother
        exact .inl (by omega)
      · cases hnone.symm.trans hother
    · exact hsame hblob
  refine ⟨⟨hstorable, ?_⟩, hheld, hnotNewer⟩
  intro side other hother
  by_cases hside : side = primary after.state
  · grind
  · obtain rfl : side = !primary after.state := Bool.eq_not_of_ne hside
    rcases hnotNewer other hother with hlt | ⟨heq, -⟩
    · exact hlt.le
    · exact heq.le

theorem current_serveMemory : Current (serveMemory memory update).1 := by
  have houtcome := outcome_serveMemory h.storable update
  generalize (serveMemory memory update).1 = after at houtcome
  cases houtcome with
  | unchanged => exact h
  | @failed candidate left hprepare hfirst =>
    refine ⟨h.storable, ?_⟩
    intro side other hother
    dsimp only at hother ⊢
    rcases update_of_torn ((htorn _ hprepare).1 _ hfirst) with hsame | hnone
    · rw [hsame] at hother
      exact h.newest side other hother
    · by_cases hside : side = primary candidate
      · grind
      · rw [slotState, Function.update_of_ne hside] at hother
        exact h.newest side other hother
  | persisted hprepare hstate hprimary hmirror => grind [held_of_persisted]

theorem held_serveMemory (hheld : Held memory) : Held (serveMemory memory update).1 := by
  have houtcome := outcome_serveMemory h.storable update
  generalize (serveMemory memory update).1 = after at houtcome
  cases houtcome with
  | unchanged => exact hheld
  | @failed candidate left hprepare hfirst =>
    have hside := primary_of_succ (prepare_spec hprepare h.storable).2
    rcases update_of_torn ((htorn _ hprepare).1 _ hfirst) with hsame | hnone
    · rw [hsame]
      exact hheld
    · refine ⟨?_, ?_⟩
      · dsimp only
        rw [slotState, hside, Function.update_of_ne (Bool.not_ne_self _).symm]
        exact hheld.held
      · intro other hother
        dsimp only at hother
        rw [← hside] at hother
        cases hnone.symm.trans hother
  | persisted hprepare hstate hprimary hmirror =>
    exact (held_of_persisted h htorn hprepare hstate hprimary hmirror).2

theorem held_of_ne (hne : (serveMemory memory update).1.state ≠ memory.state) :
    Held (serveMemory memory update).1 := by
  have houtcome := outcome_serveMemory h.storable update
  generalize (serveMemory memory update).1 = after at houtcome hne
  cases houtcome with
  | unchanged | failed => exact absurd rfl hne
  | persisted hprepare hstate hprimary hmirror =>
    exact (held_of_persisted h htorn hprepare hstate hprimary hmirror).2

end

theorem selectSlots_interrupted (h : Current memory)
    (hheld : Held memory) (hprepare : prepare memory call = .ok (some candidate))
    (hleft : Torn (memory.slots (primary candidate)) left ∨ left = .blob (storedBlob candidate)) :
    ∃ state selection, selectSlots (interruptedSlots memory candidate left) = .ok (state,
    selection) ∧
      (state = memory.state ∨ state = candidate) := by
  obtain ⟨hstorable, hgeneration⟩ := prepare_spec hprepare h.storable
  have hside := primary_of_succ hgeneration
  have hkept : slotState (interruptedSlots memory candidate left) (primary memory.state) =
      some memory.state := by
    rw [slotState, interruptedSlots, hside, Function.update_of_ne (Bool.not_ne_self _).symm]
    exact hheld.held
  rcases hleft with htorn | rfl
  · -- the state from before the update
    have hselect : ∃ selection,
        selectSlots (interruptedSlots memory candidate left) = .ok (memory.state, selection) := by
      rcases update_of_torn htorn with hsame | hnone
      · rw [interruptedSlots, hsame]
        exact selectSlots_of_held hheld.held hheld.notNewer
      · refine selectSlots_of_held hkept ?_
        intro other hother
        rw [← hside] at hother
        cases hnone.symm.trans hother
    obtain ⟨selection, hselect⟩ := hselect
    exact ⟨_, selection, hselect, .inl rfl⟩
  · -- the updated state, since the write came to its end
    have hstored : slotState (interruptedSlots memory candidate (.blob (storedBlob candidate)))
        (primary candidate) = some candidate := by
      rw [slotState, interruptedSlots, Function.update_self]
      exact decodeSlot_storedBlob hstorable (by omega)
    obtain ⟨selection, hselect⟩ := selectSlots_of_held hstored (by
      intro other hother
      rw [hside, Bool.not_not] at hother
      cases hkept.symm.trans hother
      exact .inl (by omega))
    exact ⟨_, selection, hselect, .inr rfl⟩

end Updates

/-! ## Runs -/

section Runs

variable {slots : Bool → StoredSlot} {opened memory : Memory} {history : List (Served Memory Update)}

theorem current_of_open (h : openMemory slots = .ok opened) :
    Current opened ∧ (slotState slots (primary opened.state) = some opened.state → Held opened) := by
  unfold openMemory at h
  split at h
  · cases h
  next state selection hselect =>
    cases h
    refine ⟨⟨storable_of_selectSlots hselect, ?_⟩, ?_⟩
    · intro side other hother
      exact generation_le_of_selectSlots hselect hother
    · intro hheld
      exact ⟨hheld, notNewer_of_selectSlots hselect hheld⟩

/-- After a persisted update, or if it was so from the start, the slot of the parity holds the
state. -/
theorem held_run (hopen : openMemory slots = .ok opened) (h : Run serveMemory opened history memory)
    (htorn : ∀ step ∈ history, TornWrites step.before step.call) : Current memory ∧ (slotState slots
    (primary opened.state) = some opened.state ∨ (∃ step ∈ history, (step.after serveMemory).state ≠
    step.before.state) → Held memory) := by
  induction h with
  | nil => grind [current_of_open]
  | @step history memory update run ih =>
    obtain ⟨hcurrent, hheld⟩ := ih fun step hstep => htorn step (List.mem_cons_of_mem _ hstep)
    have hwrites : TornWrites memory update := htorn _ List.mem_cons_self
    refine ⟨current_serveMemory hcurrent hwrites, ?_⟩
    rintro (hfirst | ⟨step, hstep, hne⟩)
    · exact held_serveMemory hcurrent hwrites (hheld (.inl hfirst))
    · rcases List.mem_cons.mp hstep with rfl | hearlier
      · exact held_of_ne hcurrent hwrites hne
      · exact held_serveMemory hcurrent hwrites (hheld (.inr ⟨step, hearlier, hne⟩))

/-- A memory is opened from two slots, of which the one of the parity of the state holds the state
unless an update has been persisted since. If the first write of the next update is interrupted, and
leaves the old bytes, bytes that decode to nothing or the whole blob, then the state from before the
update or the updated one is read. -/
theorem interrupted_update (hopen : openMemory slots = .ok opened) (h : Run serveMemory opened
    history memory) (htorn : ∀ step ∈ history, TornWrites step.before step.call) (hheld : slotState
    slots (primary opened.state) = some opened.state ∨ ∃ step ∈ history, (step.after
    serveMemory).state ≠ step.before.state) {call : Call} {candidate : State} (hprepare : prepare
    memory call = .ok (some candidate)) {left : StoredSlot} (hleft : Torn (memory.slots (primary
    candidate)) left ∨ left = .blob (storedBlob candidate)) : ∃ state selection, selectSlots
    (interruptedSlots memory candidate left) = .ok (state, selection) ∧ (state = memory.state ∨
    state = candidate) := by
  obtain ⟨hcurrent, hsecond⟩ := held_run hopen h htorn
  exact selectSlots_interrupted hcurrent (hsecond hheld) hprepare hleft

end Runs

/-! ### Interrupted writes -/

namespace SlotExample

/-- An unbound state, and the binding that the next update makes. -/
def unbound (generation : ℕ) : State := { State.init with generation }

def bindingID : CString := cStringOf (bytesOf "AAAAAAAAAAAAAAAAAAAAAA")

def binding : Call := .reconcileBinding (some bindingID) 1

def bound : State := ⟨2, bindingID, 1, []⟩

/-- A memory of the first generation, with the entries of its slots. -/
def memoryOf (slot0 slot1 : StoredSlot) (degraded : Bool) : Memory :=
  ⟨fun side => if side then slot1 else slot0, unbound 1, 0, 0, degraded⟩

def blob1 : StoredSlot := .blob (storedBlob (unbound 1))

/-- Both slots hold the state, and the first write of the update leaves one byte. -/
theorem interrupted_update_torn : ∃ state selection, selectSlots (interruptedSlots (memoryOf blob1
    blob1 false) bound (.blob [0])) = .ok (state, selection) ∧ (state = unbound 1 ∨ state = bound)
    := by
  have hselect : selectSlots (memoryOf blob1 blob1 false).slots =
      .ok (unbound 1, ⟨some false, (true, true), (true, true), false⟩) := by decide +kernel
  have hopen : openMemory (memoryOf blob1 blob1 false).slots = .ok (memoryOf blob1 blob1 false) := by
    rw [openMemory, hselect]
    rfl
  have hheld : slotState (memoryOf blob1 blob1 false).slots
      (primary (memoryOf blob1 blob1 false).state) = some (memoryOf blob1 blob1 false).state := by
    decide +kernel
  have hprepare : prepare (memoryOf blob1 blob1 false) binding = .ok (some bound) := by
    decide +kernel
  have hleft : decodeSlot (loadSlot (.blob [0])) = none := by decide +kernel
  exact interrupted_update hopen .nil nofun (.inl hheld) hprepare (.inl (.inr hleft))

/-- Bytes that happen to be the blob of another state are read as that state. And if only the slot
that the update writes first holds the state, then nothing can be read after its write was
interrupted. -/
theorem interrupted_update_fails : (openMemory (memoryOf blob1 blob1 false).slots).map Memory.state
    = .ok (unbound 1) ∧ prepare (memoryOf blob1 blob1 false) binding = .ok (some bound) ∧
    (selectSlots (interruptedSlots (memoryOf blob1 blob1 false) bound (.blob (storedBlob (unbound
    5))))).map Prod.fst = .ok (unbound 5) ∧ unbound 5 ≠ unbound 1 ∧ unbound 5 ≠ bound ∧ (openMemory
    (memoryOf blob1 .absent true).slots).map Memory.state = .ok (unbound 1) ∧ prepare (memoryOf
    blob1 .absent true) binding = .ok (some bound) ∧ selectSlots (interruptedSlots (memoryOf blob1
    .absent true) bound (.blob [0])) = .error .corrupt := by
  decide +kernel

end SlotExample

end XiaozhiPlatform.AgentMemory
