import XiaozhiPlatform.Generation.Coordinator

/-!
# Runs of the coordinator

The coordinator on its machine: a directory and, while the process runs, the store in memory.
A run starts with a successful `InitializeStore` and goes through any requests, stops, openings
and power losses, the latter also in the middle of a request or of an opening. System calls do not
fail. A process that is killed is the case of a power loss in which nothing is lost.

- `reachable_has`: along every run the machine has a history.
- `step_advances`: no step ever takes a record out of the history.
-/

namespace XiaozhiPlatform.Generation

open GoLib

/-- The machine of the coordinator, where `store` is `none` while no process runs. -/
structure Machine where
  directory : Directory
  store : Option Store

/-- What happens to the machine. -/
inductive Event where
  | request (request : Request)
  | requestCrash (request : Request)
  | start (now : Time)
  | startCrash (now : Time)
  | stop
  | powerLoss

/-- The steps of a machine. -/
inductive Step (key : List UInt8) : Machine → Event → Machine → Prop
  | request {directory : Directory} {store after : Store} {disk : Disk} {faults : List Fault}
      {reply : Except Error (State × Option Error)} (request : Request)
      (hfaults : Fault.error ∉ faults)
      (hrun : request.run store ⟨directory, faults⟩ = .returned reply after disk) :
      Step key ⟨directory, some store⟩ (.request request) ⟨disk.directory, some after⟩
  | requestCrash {directory down : Directory} {store : Store} {faults : List Fault}
      {left : Entries} (request : Request) (hfaults : Fault.error ∉ faults)
      (hrun : request.run store ⟨directory, faults⟩ = .crashed down) (hcrash : down.Crash left) :
      Step key ⟨directory, some store⟩ (.requestCrash request) ⟨⟨left, []⟩, none⟩
  | start {directory : Directory} {store : Store} {disk : Disk} {faults : List Fault}
      (now : Time) (hfaults : Fault.error ∉ faults)
      (hrun : openStore now (emptyStore key) ⟨directory, faults⟩ =
        .returned (.ok ()) store disk) :
      Step key ⟨directory, none⟩ (.start now) ⟨disk.directory, some store⟩
  | startCrash {directory down : Directory} {faults : List Fault} {left : Entries} (now : Time)
      (hfaults : Fault.error ∉ faults)
      (hrun : openStore now (emptyStore key) ⟨directory, faults⟩ = .crashed down)
      (hcrash : down.Crash left) :
      Step key ⟨directory, none⟩ (.startCrash now) ⟨⟨left, []⟩, none⟩
  | stop {directory : Directory} {store : Store} :
      Step key ⟨directory, some store⟩ .stop ⟨directory, none⟩
  | powerLoss {machine : Machine} {left : Entries} (hcrash : machine.directory.Crash left) :
      Step key machine .powerLoss ⟨⟨left, []⟩, none⟩

/-- The machines that `InitializeStore` leaves when it succeeds. -/
def Initial (key : List UInt8) (initial : Generation) (replicas : List ReplicaRef) (now : Time)
    (machine : Machine) : Prop :=
  ∃ (faults : List Fault) (store : Store) (disk : Disk), Fault.error ∉ faults ∧
    initializeStore initial replicas now (emptyStore key) ⟨⟨∅, []⟩, faults⟩ =
      .returned (.ok ()) store disk ∧
    machine = ⟨disk.directory, some store⟩

/-- The machines of all runs. -/
inductive Reachable (key : List UInt8) : Machine → Prop
  | initial {initial : Generation} {replicas : List ReplicaRef} {now : Time} {machine : Machine}
      (h : Initial key initial replicas now machine) : Reachable key machine
  | step {machine next : Machine} {event : Event} (hreach : Reachable key machine)
      (hstep : Step key machine event next) : Reachable key next

/-! ## Histories of machines -/

/-- The machine has the history: its records are on disk whatever is lost, and the running store
belongs to them. -/
structure Machine.Has (key : List UInt8) (machine : Machine) (history : List State) : Prop where
  key_length : 32 ≤ key.length ∧ key.length ≤ 128
  chain : Chain key history
  holds : machine.directory.Always (Holds history)
  up : ∀ store ∈ machine.store, Up key store history machine.directory

/-- What a step does to the running store and to the history. -/
inductive Advances (key : List UInt8) :
    Option Store → List State → Event → Option Store → List State → Prop
  | request (store : Store) (history : List State) (request : Request) :
      Advances key (some store) history (.request request) (some (request.effect store).store)
        ((request.effect store).committed ++ history)
  | requestCrash (store : Store) (history : List State) (request : Request) {part : List State}
      (hpart : part <:+ (request.effect store).committed) :
      Advances key (some store) history (.requestCrash request) none (part ++ history)
  | start {history : List State} {newest : State} (now : Time)
      (hnewest : history.head? = some newest) :
      Advances key none history (.start now)
        (some ((emptyStore key).loaded newest (recordDigest newest) now)) history
  | startCrash (history : List State) (now : Time) :
      Advances key none history (.startCrash now) none history
  | stop (store : Store) (history : List State) :
      Advances key (some store) history .stop none history
  | powerLoss (store : Option Store) (history : List State) :
      Advances key store history .powerLoss none history

section Steps

variable {key : List UInt8} {machine next : Machine} {event : Event} {history : List State}

theorem exists_left {P : List State → Prop} {directory : Directory} {left : Entries} (h :
    directory.Always fun entries => ∃ history, P history ∧ Holds history entries) (hcrash :
    directory.Crash left) : ∃ history, P history ∧ Directory.Always (Holds history) ⟨left, []⟩ := by
  have hleft := h.crash hcrash fun before after hbefore hsurvives => by
    obtain ⟨history, hP, hholds⟩ := hbefore
    exact ⟨history, hP, hholds.survives hsurvives⟩
  obtain ⟨history, hP, hholds⟩ := hleft
  exact ⟨history, hP, Directory.always_durable hholds⟩

theorem always_left {directory : Directory} {left : Entries} (h : directory.Always (Holds history))
    (hcrash : directory.Crash left) : Directory.Always (Holds history) ⟨left, []⟩ :=
  Directory.always_durable
    (h.crash hcrash fun _ _ hbefore hsurvives => hbefore.survives hsurvives)

theorem wp_openStore {F : List Fault} {d : Disk} {now : Time} (hF : Fault.error ∉ F) (hd : d.faults
    ⊆ F) (hkey : 32 ≤ key.length ∧ key.length ≤ 128) (hchain : Chain key history) (hholds :
    d.directory.Always (Holds history)) : wp (openStore now) (fun result store later => result = .ok
    () ∧ later.faults ⊆ F ∧ ∃ newest : State, store = (emptyStore key).loaded newest (recordDigest
    newest) now ∧ Up key store history later.directory) (fun directory => Fault.crash ∈ F ∧
    directory.Always (Holds history)) (emptyStore key) d := by
  have hlength : ¬ ((emptyStore key).key.length < 32 ∨ 128 < (emptyStore key).key.length) := by
    change ¬ (key.length < 32 ∨ 128 < key.length)
    omega
  unfold openStore
  rw [wp_bind, wp_receiver, andThen_ok, wp_bind, wp_liftM, failIf_of_neg hlength, andThen_ok]
  refine wp_loadLocked hF hd hchain hholds (fun hcrash directory h => ⟨hcrash, h⟩) ?_
  intro later hfaults newest hup
  exact ⟨rfl, hfaults, newest, rfl, hup⟩

theorem chain_of_part {store : Store} {request : Request} {part : List State}
    (hrun : Running key store history) (hpart : part <:+ (request.effect store).committed) :
    Chain key (part ++ history) := by
  have hchain := ((effect_trail hrun.key_eq request history).running hrun).chain
  obtain ⟨rest, hrest⟩ := hpart
  rw [← hrest, List.append_assoc] at hchain
  exact hchain.tail (by simp [hrun.chain.ne_nil])

theorem step_advances (hhas : machine.Has key history) (hstep : Step key machine event next) : ∃
    longer, Advances key machine.store history event next.store longer ∧ next.Has key longer := by
  obtain ⟨hkey, hchain, hholds, hup⟩ := hhas
  cases hstep with
  | @request directory store after disk faults reply request hfaults hrun =>
    have hup := hup store rfl
    obtain ⟨-, rfl, -, hafter⟩ := wp_returned (wp_run hfaults (List.Subset.refl _) hup request) hrun
    refine ⟨_, .request store history request, hkey, hafter.chain, hafter.holds, ?_⟩
    rintro _ ⟨⟩
    exact hafter
  | @requestCrash directory down store faults left request hfaults hrun hcrash =>
    have hup := hup store rfl
    have hcut := wp_crashed (wp_run hfaults (List.Subset.refl _) hup request) hrun
    have himages : down.Always fun entries => ∃ longer,
        (∃ part, part <:+ (request.effect store).committed ∧ longer = part ++ history) ∧
          Holds longer entries :=
      hcut.holds.mono fun _ ⟨part, hpart, hholds⟩ => ⟨_, ⟨part, hpart, rfl⟩, hholds⟩
    obtain ⟨_, ⟨part, hpart, rfl⟩, hleft⟩ := exists_left himages hcrash
    exact ⟨_, .requestCrash store history request hpart, hkey,
      chain_of_part hup.toRunning hpart, hleft, by rintro _ ⟨⟩⟩
  | @start directory store disk faults now hfaults hrun =>
    obtain ⟨-, -, newest, rfl, hup⟩ := wp_returned
      (wp_openStore hfaults (List.Subset.refl _) hkey hchain hholds) hrun
    refine ⟨history, .start now hup.newest, hkey, hchain, hup.holds, ?_⟩
    rintro _ ⟨⟩
    exact hup
  | @startCrash directory down faults left now hfaults hrun hcrash =>
    have hdown := wp_crashed
      (wp_openStore hfaults (List.Subset.refl _) hkey hchain hholds) hrun
    exact ⟨history, .startCrash history now, hkey, hchain, always_left hdown.2 hcrash,
      by rintro _ ⟨⟩⟩
  | stop => exact ⟨history, .stop _ _, hkey, hchain, hholds, by rintro _ ⟨⟩⟩
  | powerLoss hcrash =>
    exact ⟨history, .powerLoss _ _, hkey, hchain, always_left hholds hcrash, by rintro _ ⟨⟩⟩

theorem Advances.suffix
    (h : Advances key store history event after longer) : history <:+ longer := by
  cases h with
  | request | requestCrash => exact List.suffix_append _ _
  | start | startCrash | stop | powerLoss => exact List.suffix_refl _

end Steps

/-! ## The first record -/

section Initial

variable {key : List UInt8} {initial : Generation} {replicas : List ReplicaRef} {now : Time}
  {machine : Machine}

theorem holds_empty : Holds [] ∅ where
  records _ h := absurd h List.not_mem_nil
  names _ h := absurd h Std.ExtTreeMap.not_mem_empty

/-- The inputs that `InitializeStore` accepts. -/
structure ValidBootstrap (key : List UInt8) (initial : Generation) (replicas : List ReplicaRef)
    (now : Time) : Prop where
  key_length : 32 ≤ key.length ∧ key.length ≤ 128
  initial : ValidGeneration initial
  replicas : ValidReplicas replicas
  time : ValidTime now

theorem ValidReplicas.sort (h : ValidReplicas replicas) : ValidReplicas (sortReplicas replicas) := by
  have hperm : (sortReplicas replicas).Perm replicas := List.perm_insertionSort _ _
  obtain ⟨hmin, hmax, hall, hnodup, hcontrol, horigin⟩ := h
  refine ⟨hperm.length_eq ▸ hmin, hperm.length_eq ▸ hmax, fun value hvalue => ?_, ?_, ?_, ?_⟩
  · exact hall value (hperm.mem_iff.mp hvalue)
  · exact (hperm.map _).nodup_iff.mpr hnodup
  · grind
  · grind

theorem sound_genesisRecord (h : ValidBootstrap key initial replicas now) :
    (genesisRecord initial replicas now).Sound := by
  have hzero : (0 : ℤ) ≤ maximumUnix + 86400 := by decide
  have hone : (1 : UInt64) ≠ 0 := by decide
  have hdigest : ValidSHA256 zeroDigest := by decide +kernel
  refine ⟨⟨rfl, hone, hdigest, h.initial, h.replicas.sort, h.time.1, h.time.2, ?_, ?_, ?_, ?_,
    ?_, ?_⟩, hzero, hzero, nofun, nofun⟩
  · exact fun hset => absurd rfl hset
  · exact Keyed.isChain_insertionSort ReplicaRef.id replicas
  · exact .nil
  · exact .nil
  · exact fun _ hack => absurd hack List.not_mem_nil
  · exact ⟨rfl, rfl, rfl, rfl, rfl⟩

/-- `InitializeStore` in an empty directory starts a history of one record, if its inputs are
valid. -/
theorem wp_initializeStore (hF : Fault.error ∉ F) (hd : d.faults ⊆ F)
    (hempty : d.directory = ⟨∅, []⟩) : wp (initializeStore initial replicas now) (fun result store
    later => (result = .ok () ↔ ValidBootstrap key initial replicas now) ∧ (result = .ok () → store
    = (emptyStore key).committed (genesisRecord initial replicas now) ∧ Up key store [sign key
    (genesisRecord initial replicas now)] later.directory)) (fun _ => Fault.crash ∈ F) (emptyStore
    key) d := by
  have hholds : d.directory.Always (Holds []) := hempty ▸ Directory.always_durable holds_empty
  have htidy : Tidy d.directory.visible := by
    rw [hempty]
    exact fun _ h => absurd h Std.ExtTreeMap.not_mem_empty
  have hinputs : ValidBootstrap key initial replicas now ↔
      ¬ ((emptyStore key).key.length < 32 ∨ 128 < (emptyStore key).key.length ∨
        ¬ ValidGeneration initial ∨ ¬ ValidReplicas replicas ∨ ¬ ValidTime now) := by
    simp only [not_or, not_lt, not_not]
    constructor
    · rintro ⟨hkey, h1, h2, h3⟩
      exact ⟨hkey.1, hkey.2, h1, h2, h3⟩
    · rintro ⟨hmin, hmax, h1, h2, h3⟩
      exact ⟨⟨hmin, hmax⟩, h1, h2, h3⟩
  unfold initializeStore
  rw [wp_bind, wp_receiver, andThen_ok, wp_bind, wp_liftM]
  by_cases hvalid : ValidBootstrap key initial replicas now
  · rw [failIf_of_neg (hinputs.mp hvalid), andThen_ok]
    have hsound := sound_genesisRecord hvalid
    refine wp_commitLocked_files hF hd hholds htidy (fun _ _ h => absurd h List.not_mem_nil)
      (fun e hreject => ?_) (fun hcrash _ _ _ => hcrash) fun _ later _ hholds htidy => ?_
    · have hcheck : checkCommit (emptyStore key) (genesisRecord initial replicas now) = .ok () := by
        simp only [checkCommit, (validateState_eq_ok _).mpr hsound.valid, ok_bind]
        rfl
      rw [hcheck] at hreject
      cases hreject
    · exact ⟨iff_of_true rfl hvalid, fun _ => ⟨rfl, ⟨.genesis hsound rfl rfl rfl, rfl, rfl, rfl⟩,
        hholds, htidy⟩⟩
  · rw [failIf_of_pos (not_not.mp (mt hinputs.mpr hvalid))]
    exact ⟨iff_of_false (by simp) hvalid, by rintro ⟨⟩⟩

theorem initial_has (h : Initial key initial replicas now machine) : ValidBootstrap key initial
    replicas now ∧ machine.Has key [sign key (genesisRecord initial replicas now)] ∧ machine.store =
    some ((emptyStore key).committed (genesisRecord initial replicas now)) := by
  obtain ⟨faults, store, disk, hfaults, hrun, rfl⟩ := h
  obtain ⟨hok, hdone⟩ := wp_returned (wp_initializeStore hfaults (List.Subset.refl _) rfl) hrun
  have hvalid := hok.mp rfl
  obtain ⟨rfl, hup⟩ := hdone rfl
  refine ⟨hvalid, ⟨hvalid.key_length, hup.chain, hup.holds, ?_⟩, rfl⟩
  rintro _ ⟨⟩
  exact hup

theorem exists_initial (h : ValidBootstrap key initial replicas now) :
    ∃ machine, Initial key initial replicas now machine := by
  have hwp : wp (initializeStore initial replicas now) _ _ (emptyStore key) ⟨⟨∅, []⟩, []⟩ :=
    wp_initializeStore (F := []) List.not_mem_nil (List.Subset.refl _) rfl
  cases hrun : initializeStore initial replicas now (emptyStore key) ⟨⟨∅, []⟩, []⟩ with
  | returned result store disk =>
    obtain rfl := (wp_returned hwp hrun).1.mpr h
    exact ⟨_, [], store, disk, List.not_mem_nil, hrun, rfl⟩
  | crashed down => exact absurd (wp_crashed hwp hrun) List.not_mem_nil

end Initial

/-- Along every run the machine has a history. -/
theorem reachable_has (h : Reachable key machine) : ∃ history, machine.Has key history := by
  induction h with
  | initial hinitial => exact ⟨_, (initial_has hinitial).2.1⟩
  | step _ hstep ih => grind [step_advances]

end XiaozhiPlatform.Generation
