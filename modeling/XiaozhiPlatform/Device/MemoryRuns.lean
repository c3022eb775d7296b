import XiaozhiPlatform.Device.MemoryCore
import XiaozhiPlatform.GoLib.Run

/-!
# Runs of the agent memory

Whatever operations are called from the initial state, with whatever arguments, the table acts as a
finite map: `remembered` is the map that the successful calls have left since the binding last
changed, and `find` answers from it.

- `valid_run`: the state stays valid.
- `lookup_run`: the table holds what is remembered.
- `memory_core_runs`: the whole contract of the operations.
-/

namespace XiaozhiPlatform.AgentMemory

open CLib GoLib

/-- The binding of a state. -/
def State.binding (state : State) : CString × ℕ := (state.bindingID, state.bindingRevision)

/-- What a call does to the finite map. -/
def remember (map : CString → Option Item) (call : Call) (before after : State) (result : Result) :
    CString → Option Item :=
  if result ≠ .ok then map
  else
    match call with
    | .put category (some key) (some value) =>
      Function.update map key (some ⟨category, key, value, after.generation⟩)
    | .forget (some key) => Function.update map key none
    | .clear => fun _ => none
    | .reconcileBinding _ _ => if after.binding = before.binding then map else fun _ => none
    | _ => map

theorem remember_of_error {map : CString → Option Item}
    (h : result ≠ .ok) : remember map call before after result = map := by
  unfold remember
  exact if_pos h

section

variable {map : CString → Option Item} {before after : State}

theorem remember_put : remember map (.put category (some key) (some value)) before after .ok =
    Function.update map key (some ⟨category, key, value, after.generation⟩) :=
  rfl

theorem remember_forget :
    remember map (.forget (some key)) before after .ok = Function.update map key none :=
  rfl

theorem remember_rebound (h : after.binding ≠ before.binding) :
    remember map (.reconcileBinding bindingID bindingRevision) before after .ok = fun _ => none :=
    by
  unfold remember
  simp [h]

end

/-- The finite map after the successful calls since the last change of the binding. -/
def remembered : List (Served State Call) → CString → Option Item
  | [] => fun _ => none
  | step :: earlier =>
    remember (remembered earlier) step.call step.before (step.after serve) (step.reply serve)

/-! ## Steps -/

section Steps

variable {state : State} {call : Call}

theorem valid_serve (h : Valid state) (call : Call) : Valid (serve state call).1 := by
  have heffect := effect_serve state call
  generalize serve state call = answer at heffect ⊢
  cases heffect with
  | refused => exact h
  | kept => exact h
  | @bound bindingID bindingRevision _ hid hrevision =>
    have hbound : isBound ⟨state.generation + 1, bindingID, bindingRevision, []⟩ = true := by
      simp [isBound, hid, hrevision]
    exact valid_of_bound hbound (Nat.succ_ne_zero _) (Nat.zero_le _) nofun List.Pairwise.nil
  | @stored category key value items _ hbound hcategory hkey hvalue _ hstored =>
    refine valid_of_bound hbound (Nat.succ_ne_zero _) hstored.count ?_ hstored.sorted
    intro item hitem
    rcases hstored.mem item hitem with hold | hnew
    · exact itemValid_mono (Nat.le_succ _) (h.items item hold)
    · grind [itemValid]
  | forgotten _ hbound _ hstored =>
    refine valid_of_bound hbound (Nat.succ_ne_zero _) hstored.count ?_ hstored.sorted
    intro item hitem
    rcases hstored.mem item hitem with hold | hnew
    · exact itemValid_mono (Nat.le_succ _) (h.items item hold)
    · cases hnew
  | cleared _ hbound =>
    exact valid_of_bound hbound (Nat.succ_ne_zero _) (Nat.zero_le _) nofun List.Pairwise.nil

/-- What one call says about generations and bindings. -/
structure Step (before after : State) (result : Result) : Prop where
  error : result ≠ .ok → after = before
  generation : after ≠ before → before.generation < after.generation
  revision : before.bindingRevision ≤ after.bindingRevision
  binding : after.binding ≠ before.binding → after.items = []

theorem step_serve (h : Valid state) (call : Call) :
    Step state (serve state call).1 (serve state call).2 := by
  have heffect := effect_serve state call
  generalize serve state call = answer at heffect ⊢
  cases heffect with
  | refused | kept =>
    exact ⟨fun _ => rfl, fun hne => absurd rfl hne, Nat.le_refl _, fun hne => absurd rfl hne⟩
  | bound _ _ _ hnewer =>
    refine ⟨fun herror => absurd rfl herror, fun _ => Nat.lt_succ_self _, ?_, fun _ => rfl⟩
    cases hbound : isBound state with
    | true => exact (hnewer hbound).le
    | false => exact (h.unbound hbound).1 ▸ Nat.zero_le _
  | stored | forgotten | cleared =>
    exact ⟨fun herror => absurd rfl herror, fun _ => Nat.lt_succ_self _, Nat.le_refl _,
      fun hne => absurd rfl hne⟩

end Steps

/-! ## Runs -/

section Runs

variable {history : List (Served State Call)} {state : State}

section

variable (h : Run serve .init history state)

include h

theorem valid_run : Valid state :=
  h.invariant (fun _ call hvalid => valid_serve hvalid call) valid_init

/-- The table holds what is remembered. -/
theorem lookup_run (key : CString) :
    SortedArray.lookup itemKey state.items key.unsigned = remembered history key := by
  induction h with
  | nil => rfl
  | @step history state call run ih =>
    have heffect := effect_serve state call
    rw [remembered, Served.reply, Served.after]
    dsimp only
    generalize serve state call = answer at heffect ⊢
    cases heffect with
    | refused hresult =>
      rw [remember_of_error hresult]
      exact ih
    | kept =>
      simpa [remember] using ih
    | bound _ _ hrevision hnewer =>
      -- Another binding has another revision, so nothing is remembered under it.
      have hother : ∀ bindingID : CString, ∀ bindingRevision, 0 < bindingRevision →
          (isBound state = true → state.bindingRevision < bindingRevision) →
          (bindingID, bindingRevision) ≠ state.binding := by
        intro bindingID bindingRevision hpositive hnewer heq
        have hsame : bindingRevision = state.bindingRevision := congrArg Prod.snd heq
        cases hbound : isBound state with
        | true => exact absurd (hnewer hbound) (by omega)
        | false => exact absurd ((valid_run run).unbound hbound).1 (by omega)
      rw [remember_rebound (hother _ _ hrevision.1 hnewer)]
      rfl
    | @stored category stored value items _ _ _ _ _ _ hstored =>
      rw [remember_put]
      by_cases hkey : key = stored
      · subst hkey
        rw [Function.update_self]
        exact hstored.lookup_self
      · have hne : key.unsigned ≠ stored.unsigned := fun h => hkey (CString.unsigned_injective h)
        rw [Function.update_of_ne hkey, ← ih]
        exact hstored.lookup_other _ hne
    | @forgotten forgotten items _ _ _ hstored =>
      rw [remember_forget]
      by_cases hkey : key = forgotten
      · subst hkey
        rw [Function.update_self]
        exact hstored.lookup_self
      · have hne : key.unsigned ≠ forgotten.unsigned := fun h => hkey (CString.unsigned_injective h)
        rw [Function.update_of_ne hkey, ← ih]
        exact hstored.lookup_other _ hne
    | cleared => rfl

theorem find_run (key : Option CString) : find state key = key.bind (remembered history) := by
  cases key with
  | none => rfl
  | some key =>
    have hvalid := valid_run h
    have hlookup := lookup_run h key
    rw [find, Option.bind_some, SortedArray.find_eq_lookup hvalid.sorted, hlookup]
    split
    · rfl
    next hnot =>
      rw [eq_comm, ← hlookup, SortedArray.lookup_eq_none_iff]
      intro item hitem heq
      have hitemKey : item.key = key := CString.unsigned_injective heq
      have hallowed := hvalid.items item hitem
      simp only [itemValid, Bool.and_eq_true, hitemKey] at hallowed
      exact hnot hallowed.1.1.1.2

end

/-- A call that stored an item under a binding. -/
structure StoredBy (step : Served State Call) (item : Item) (binding : CString × ℕ) : Prop where
  call : step.call = .put item.category (some item.key) (some item.value)
  reply : step.reply serve = .ok
  revision : (step.after serve).generation = item.revision
  binding : step.before.binding = binding

theorem exists_storedBy (h : Run serve .init history state) :
    ∀ item ∈ state.items, ∃ step ∈ history, StoredBy step item state.binding := by
  induction h with
  | nil => nofun
  | @step history state call run ih =>
    have heffect := effect_serve state call
    generalize hanswer : serve state call = answer at heffect ⊢
    have hlater : ∀ item ∈ state.items, ∃ step ∈ ⟨state, call⟩ :: history,
        StoredBy step item state.binding := by grind
    cases heffect with
    | refused => exact hlater
    | kept => exact hlater
    | bound => nofun
    | stored _ _ _ _ _ _ hstored =>
      intro item hitem
      rcases hstored.mem item hitem with hold | hnew
      · exact hlater item hold
      · cases hnew
        refine ⟨_, List.mem_cons_self, rfl, ?_, ?_, rfl⟩
        · rw [Served.reply, hanswer]
        · rw [Served.after, hanswer]
    | forgotten _ _ _ hstored =>
      intro item hitem
      rcases hstored.mem item hitem with hold | hnew
      · exact hlater item hold
      · cases hnew
    | cleared => nofun

/-- In every run of the operations from the initial state, with any arguments, the state stays valid,
an error changes nothing, a change moves to a greater generation, the binding revision never
decreases and a change of the binding empties the table; the search answers as the finite map of the
successful calls, and what it finds was stored under the binding that the state has. -/
theorem memory_core_runs (h : Run serve .init history state) : stateValid state false = true ∧ (∀
    step ∈ history, Step step.before (step.after serve) (step.reply serve)) ∧ (∀ key, find state key
    = key.bind (remembered history)) ∧ ∀ key item, find state key = some item → ∃ step ∈ history,
    StoredBy step item state.binding := by
  refine ⟨stateValid_iff.mpr (valid_run h), ?_, find_run h, ?_⟩
  · intro step hstep
    obtain ⟨past, hpast⟩ := h.before hstep
    exact step_serve (valid_run hpast) step.call
  · intro key item hfind
    refine exists_storedBy h item ?_
    cases key with
    | none => cases hfind
    | some key =>
      rw [find, SortedArray.find_eq_lookup (valid_run h).sorted] at hfind
      split at hfind
      · exact (SortedArray.mem_of_lookup_eq_some hfind).1
      · cases hfind

end Runs

/-! ### A run -/

namespace RunExample

def text (literal : String) : CString := cStringOf (bytesOf literal)

/-- A binding, two entries, one of them replaced, and a key that is refused. -/
def calls : List Call := [
  .put 1 (some (text "password")) (some (text "x")),
  .put 1 (some (text "tea")) (some (text "green")),
  .put 2 (some (text "name")) (some (text "Ada")),
  .put 1 (some (text "tea")) (some (text "black")),
  .reconcileBinding (some (text "AAAAAAAAAAAAAAAAAAAAAA")) 7]

theorem memory_core_runs_example :
    stateValid (replay serve .init calls).2 false = true ∧
      (find (replay serve .init calls).2 (some (text "tea"))).map Item.value = some (text "green") ∧
      ∀ key, find (replay serve .init calls).2 key =
        key.bind (remembered (replay serve .init calls).1) :=
  have h := memory_core_runs (run_replay serve .init calls)
  ⟨h.1, by decide +kernel, h.2.2.1⟩

end RunExample

end XiaozhiPlatform.AgentMemory
