import XiaozhiPlatform.Generation.Lifecycle

/-!
# Recovery

What `OpenStore` finds. The directory of a coordinator holds its history at every moment, so
opening it again gives the newest record of that history:

- after a clean stop, the state in memory;
- after a crash in the middle of an operation, the state before it or one of the records that the
  operation commits;
- after any further steps, crashes included, nothing older than the last operation that returned.
-/

namespace XiaozhiPlatform.Generation

open GoLib

/-- `OpenStore` on the directory at the time `now` succeeds with the state. -/
def Opens (key : List UInt8) (directory : Directory) (now : Time) (state : State) : Prop :=
  ∃ store disk, openStore now (emptyStore key) ⟨directory, []⟩ = .returned (.ok ()) store disk ∧
    store.state = state

/-- Any number of steps of the machine. -/
def Steps (key : List UInt8) : Machine → Machine → Prop :=
  Relation.ReflTransGen fun machine next => ∃ event, Step key machine event next

section Recovery

variable {key : List UInt8} {machine later : Machine} {history : List State}

theorem opens_newest (hkey : 32 ≤ key.length ∧ key.length ≤
    128) (hchain : Chain key history) (hholds : directory.Always (Holds history)) (hnewest :
    history.head? = some newest) (now : Time) : Opens key directory now newest := by
  have hwp : wp (openStore now) _ _ (emptyStore key) ⟨directory, []⟩ :=
    wp_openStore (F := []) List.not_mem_nil (List.Subset.refl _) hkey hchain hholds
  cases hrun : openStore now (emptyStore key) ⟨directory, []⟩ with
  | returned result store disk =>
    obtain ⟨rfl, -, _, -, hup⟩ := wp_returned hwp hrun
    exact ⟨store, disk, hrun, Option.some.inj (hup.newest.symm.trans hnewest)⟩
  | crashed down => exact absurd (wp_crashed hwp hrun).1 List.not_mem_nil

theorem Steps.has (h : Steps key machine later) (hhas : machine.Has key history) :
    ∃ longer, later.Has key longer ∧ history <:+ longer := by
  induction h with
  | refl => exact ⟨history, hhas, List.suffix_refl _⟩
  | tail _ hstep ih =>
    obtain ⟨longer, hlonger, hsuffix⟩ := ih
    obtain ⟨event, hstep⟩ := hstep
    obtain ⟨last, hadvances, hlast⟩ := step_advances hlonger hstep
    exact ⟨last, hlast, hsuffix.trans hadvances.suffix⟩

theorem head?_append_cases (hpart : part <:+ committed) (hnewest : history.head? = some newest) :
    ∃ state, (part ++ history).head? = some state ∧ (state = newest ∨ state ∈ committed) := by
  cases part with
  | nil => exact ⟨newest, hnewest, .inl rfl⟩
  | cons state rest => exact ⟨state, rfl, .inr (hpart.subset List.mem_cons_self)⟩

theorem Machine.Has.exists_newest (h : machine.Has key history) :
    ∃ newest, history.head? = some newest := by
  obtain ⟨newest, older, rfl⟩ := List.exists_cons_of_ne_nil h.chain.ne_nil
  exact ⟨newest, rfl⟩

theorem Machine.Has.opens_left (h : machine.Has key history)
    (hnewest : history.head? = some newest) (hcrash : machine.directory.Crash left) (now : Time) :
    Opens key ⟨left, []⟩ now newest :=
  opens_newest h.key_length h.chain (always_left h.holds hcrash) hnewest now

end Recovery

section Operations

variable {key : List UInt8} {machine : Machine} {store : Store}

/-- For a running coordinator of any run. Opening its directory gives the state in memory. When the
machine goes down in the middle of a request, after whatever system call and with whatever part of
the unsynced changes lost, opening what is left gives the state before the request or one of its
records. When the request returns, its records are part of the history from then on: after any
further steps and a power loss, opening gives the newest record of a history that extends it. -/
theorem openStore_recovers (hreach : Reachable key machine) (hstore : machine.store = some store) :
    (∀ now, Opens key machine.directory now store.state) ∧ (∀ (request : Request) (faults : List
    Fault) (down : Directory) (left : Entries), Fault.error ∉ faults → request.run store
    ⟨machine.directory, faults⟩ = .crashed down → down.Crash left → ∀ now, ∃ state, Opens key ⟨left,
    []⟩ now state ∧ (state = store.state ∨ state ∈ (request.effect store).committed)) ∧ (∀ (request
    : Request) (faults : List Fault) (reply : Except Error (State × Option Error)) (after : Store)
    (disk : Disk), Fault.error ∉ faults → request.run store ⟨machine.directory, faults⟩ = .returned
    reply after disk → ∃ history, history.head? = some after.state ∧ (request.effect
    store).committed ++ [store.state] <:+: history ∧ ∀ later, Steps key ⟨disk.directory, some after⟩
    later → ∃ longer newest, history <:+ longer ∧ longer.head? = some newest ∧ later.Has key longer
    ∧ ∀ left, later.directory.Crash left → ∀ now, Opens key ⟨left, []⟩ now newest) := by
  obtain ⟨history, hhas⟩ := reachable_has hreach
  have hup := hhas.up store hstore
  refine ⟨fun now => ?_, fun request faults down left hfaults hrun hcrash now => ?_,
    fun request faults reply after disk hfaults hrun => ?_⟩
  · exact opens_newest hhas.key_length hhas.chain hhas.holds hup.newest now
  · -- the step to the machine that the crash leaves
    have hstep : Step key machine (.requestCrash request) ⟨⟨left, []⟩, none⟩ := by
      obtain ⟨directory, _⟩ := machine
      obtain rfl := hstore
      exact .requestCrash request hfaults hrun hcrash
    obtain ⟨longer, hadvances, hnext⟩ := step_advances hhas hstep
    rw [hstore] at hadvances
    cases hadvances with
    | requestCrash _ _ _ hpart =>
      obtain ⟨state, hnewest, hcases⟩ := head?_append_cases hpart hup.newest
      exact ⟨state, opens_newest hnext.key_length hnext.chain hnext.holds hnewest now, hcases⟩
  · have hstep : Step key machine (.request request) ⟨disk.directory, some after⟩ := by
      obtain ⟨directory, _⟩ := machine
      obtain rfl := hstore
      exact .request request hfaults hrun
    obtain ⟨longer, hadvances, hnext⟩ := step_advances hhas hstep
    refine ⟨longer, (hnext.up after rfl).newest, ?_, fun later hsteps => ?_⟩
    · rw [hstore] at hadvances
      cases hadvances with
      | request =>
        obtain ⟨_, older, rfl⟩ := List.exists_cons_of_ne_nil hhas.chain.ne_nil
        obtain rfl := Option.some.inj hup.newest
        exact ⟨[], older, by simp⟩
    · obtain ⟨last, hlast, hsuffix⟩ := hsteps.has hnext
      obtain ⟨newest, hnewest⟩ := hlast.exists_newest
      exact ⟨last, newest, hsuffix, hnewest, hlast, fun left hcrash now =>
        hlast.opens_left hnewest hcrash now⟩

/-- The small installation opens in the phase COMMITTING after a clean stop. -/
theorem openStore_recovers_committing : ∃ machine store, Reachable exampleKey machine ∧
    machine.store = some store ∧ store.state.phase = .committing ∧
    Opens exampleKey machine.directory exampleNow store.state := by
  obtain ⟨store, ⟨machine, hreach, hstore⟩, hcommits⟩ := example_commits
  have hopens := (openStore_recovers hreach hstore).1 exampleNow
  exact ⟨machine, store, hreach, hstore, hcommits.phase, hopens⟩

end Operations

end XiaozhiPlatform.Generation
