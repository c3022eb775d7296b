import Mathlib

/-!
# Runs of an object that serves calls

An object behind a lock, and a database with serializable transactions, serve one call after the
other: `serve` takes the state and a call to the next state and the reply. A history lists the
calls that were served, newest first, each with the state that it was served in, so a statement
about every history covers every interleaving of every client.

- `Run.invariant`: what every call preserves holds after every run.
- `Run.pairwise_of_first`: so does a kind of call that never follows one of its kind.
- `Versioned.eq_between`: what carries a version that moves with every change cannot come back to
  a former version, so a run that ends with the version it began with has not changed it at all.
-/

namespace GoLib

variable {σ ι ο α : Type}

/-- A call that was served, with the state that it was served in. -/
structure Served (σ ι : Type) where
  before : σ
  call : ι

section Runs

variable (serve : σ → ι → σ × ο)

def Served.after (x : Served σ ι) : σ := (serve x.before x.call).1

def Served.reply (x : Served σ ι) : ο := (serve x.before x.call).2

/-- The histories, newest call first, that lead from one state to another. -/
inductive Run (init : σ) : List (Served σ ι) → σ → Prop
  | nil : Run init [] init
  | step {history : List (Served σ ι)} {state : σ} (call : ι) (run : Run init history state) :
      Run init (⟨state, call⟩ :: history) (serve state call).1

variable {serve} {init state : σ} {history earlier later : List (Served σ ι)} {x : Served σ ι}

theorem run_nil : Run serve init [] state ↔ state = init :=
  ⟨fun h => by cases h; rfl, fun h => h ▸ .nil⟩

theorem run_cons :
    Run serve init (x :: history) state ↔ Run serve init history x.before ∧ state = x.after serve := by
  constructor
  · intro h
    cases h with
    | step call run => exact ⟨run, rfl⟩
  · rintro ⟨run, rfl⟩
    exact .step x.call run

theorem run_append : Run serve init (later ++ earlier) state ↔ ∃ middle, Run serve init earlier
    middle ∧ Run serve middle later state := by
  induction later generalizing state with
  | nil => grind [run_nil]
  | cons y later ih => grind [run_cons]

theorem Run.split (h : Run serve init (later ++ x :: earlier) state) :
    Run serve init earlier x.before ∧ Run serve (x.after serve) later state := by
  grind [run_append, run_cons]

theorem Run.state_unique (h : Run serve init history state)
    (hother : Run serve init history other) : state = other := by
  cases history with
  | nil => rw [run_nil.mp h, run_nil.mp hother]
  | cons x history => rw [(run_cons.mp h).2, (run_cons.mp hother).2]

theorem Run.before (h : Run serve init history state) (hx : x ∈ history) :
    ∃ past, Run serve init past x.before := by
  obtain ⟨later, past, rfl⟩ := List.append_of_mem hx
  exact ⟨past, h.split.1⟩

theorem Run.invariant {I : σ → Prop} (hstep : ∀ state call, I state → I (serve state call).1)
    (h : Run serve init history state) (hinit : I init) : I state := by
  induction h with
  | nil => exact hinit
  | step call _ ih => exact hstep _ call ih

variable (serve) in
/-- The history and the last state of a list of calls, newest call first. -/
def replay (init : σ) : List ι → List (Served σ ι) × σ
  | [] => ([], init)
  | call :: earlier =>
    let past := replay init earlier
    (⟨past.2, call⟩ :: past.1, (serve past.2 call).1)

variable (serve) in
theorem run_replay (init : σ) (calls : List ι) :
    Run serve init (replay serve init calls).1 (replay serve init calls).2 := by
  induction calls with
  | nil => exact .nil
  | cons call earlier ih => exact .step call ih

theorem call_mem_of_mem_replay (h : x ∈ (replay serve init calls).1) : x.call ∈ calls := by
  induction calls with
  | nil => cases h
  | cons call earlier ih =>
    rcases List.mem_cons.mp h with rfl | h
    · exact List.mem_cons_self
    · exact List.mem_cons_of_mem call (ih h)

/-- A kind of call that never follows a call of its kind happens at most once. -/
theorem Run.pairwise_of_first {P : Served σ ι → Prop} (h : Run serve init history state)
    (hfirst : ∀ x past, Run serve init past x.before → P x → ∀ y ∈ past, ¬ P y) :
    history.Pairwise fun x y => ¬ (P x ∧ P y) := by
  induction h with
  | nil => exact .nil
  | @step history state call run ih => grind [List.Pairwise.cons]

end Runs

/-! ## Versions -/

/-- Every call that changes the observation raises its version. -/
structure Versioned (serve : σ → ι → σ × ο) (I : σ → Prop) (observe : σ → α) (version : α → ℕ) :
    Prop where
  invariant : ∀ state call, I state → I (serve state call).1
  step : ∀ state call, I state → observe (serve state call).1 = observe state ∨
    version (observe state) < version (observe (serve state call).1)

namespace Versioned

variable {serve : σ → ι → σ × ο} {I : σ → Prop} {observe : σ → α} {version : α → ℕ}
  {init state : σ} {history earlier later : List (Served σ ι)} {x : Served σ ι}

/-- A whole run leaves the observation alone or raises its version. -/
theorem run (h : Versioned serve I observe version) (hrun : Run serve init history state) (hinit : I
    init) : observe state = observe init ∨ version (observe init) < version (observe state) := by
  induction hrun with
  | nil => exact Or.inl rfl
  | @step history state call hrun ih =>
    have hI : I state := hrun.invariant h.invariant hinit
    rcases h.step state call hI with hsame | hgrows
    · rw [hsame]
      exact ih
    · grind

theorem version_le (h : Versioned serve I observe version) (hrun : Run serve init history state)
    (hinit : I init) : version (observe init) ≤ version (observe state) := by
  rcases h.run hrun hinit with hsame | hgrows
  · grind
  · exact Nat.le_of_lt hgrows

theorem lt_of_changed (h : Versioned serve I observe version) (hx : I x.before) (hchanged : observe
    (x.after serve) ≠ observe x.before) (hrun : Run serve (x.after serve) later state) : version
    (observe x.before) < version (observe state) := by
  have hstep := (h.step x.before x.call hx).resolve_left hchanged
  exact Nat.lt_of_lt_of_le hstep (h.version_le hrun (h.invariant _ _ hx))

/-- A run that ends with the version it began with has observed one value throughout. -/
theorem eq_between (h : Versioned serve I observe version) (hrun : Run serve init history state)
    (hinit : I init) (hversion : version (observe state) = version (observe init)) :
    observe state = observe init ∧ ∀ x ∈ history, observe x.before = observe init := by
  refine ⟨(h.run hrun hinit).resolve_right (by omega), fun x hx => ?_⟩
  obtain ⟨later, earlier, rfl⟩ := List.append_of_mem hx
  obtain ⟨hearlier, hlater⟩ := hrun.split
  have hI : I x.before := hearlier.invariant h.invariant hinit
  have hnext : Run serve x.before [x] (x.after serve) := .step x.call .nil
  have hle := h.version_le hnext hI
  have hrest := h.version_le hlater (h.invariant _ _ hI)
  exact (h.run hearlier hinit).resolve_right (by omega)

/-- Of two states of a run the later one has the same observation or a larger version. -/
theorem pairwise (h : Versioned serve I observe version) (hrun : Run serve init history state)
    (hinit : I init) : history.Pairwise fun y x => observe y.before = observe x.before ∨
      version (observe x.before) < version (observe y.before) := by
  induction hrun with
  | nil => exact .nil
  | step call hrun ih =>
    refine List.pairwise_cons.mpr ⟨fun x hx => ?_, ih⟩
    obtain ⟨later, earlier, rfl⟩ := List.append_of_mem hx
    obtain ⟨hearlier, hlater⟩ := hrun.split
    exact h.run (run_append.mpr ⟨_, .step x.call .nil, hlater⟩)
      (hearlier.invariant h.invariant hinit)

end Versioned

end GoLib
