import XiaozhiPlatform.GoLib.Error
import XiaozhiPlatform.GoLib.Map

/-!
# Files, crashes and procedures

One directory of a POSIX file system as a crash-safe store sees it, and a small language of
procedures over it. A change of the directory is visible at once but reaches the disk only when
the directory is synced; a power loss keeps any part of the changes that were still pending, and
leaves arbitrary data in a file that was not synced itself.

A procedure of type `Proc σ α` is a Go method with receiver state `σ`: it returns a value or an
error together with the new receiver, or the machine goes down in the middle of it. Every system
call consumes one entry of a list of injected faults.

- `Directory.Always P d`: every image that a power loss at `d` may leave satisfies `P`.
- `wp p Q C s d`: started at `s` and `d`, the procedure `p` returns with `Q`, or the machine goes
  down with a directory that satisfies `C`. The rules `wp_bind`, `wp_call` and the like compute it.
-/

namespace GoLib

/-! ## Directories -/

/-- A regular file: its text, and whether the text has reached the disk. -/
structure File where
  data : List Char
  synced : Bool
deriving DecidableEq

/-- The files of a directory by name. -/
abbrev Entries := Std.ExtTreeMap String File

/-- A change of a directory that is still on its way to the disk. -/
inductive Update where
  | set (name : String) (file : File)
  | remove (name : String)
  | rename (old new : String) (file : File)

/-- The entries after a change. -/
def Update.apply : Update → Entries → Entries
  | .set name file, entries => entries.insert name file
  | .remove name, entries => entries.erase name
  | .rename old new file, entries => (entries.erase old).insert new file

/-- The entries after a list of changes. -/
def applyAll (updates : List Update) (entries : Entries) : Entries :=
  updates.foldl (fun entries update => update.apply entries) entries

/-- A directory: what the disk holds, and the changes since it was last synced. -/
structure Directory where
  durable : Entries
  pending : List Update

namespace Directory

/-- The entries that programs see. -/
def visible (d : Directory) : Entries := applyAll d.pending d.durable

def push (d : Directory) (update : Update) : Directory :=
  { d with pending := d.pending ++ [update] }

/-- The directory after its pending changes have reached the disk. -/
def sync (d : Directory) : Directory := { durable := d.visible, pending := [] }

/-- Every image of the directory in which some of the pending changes are lost satisfies `P`. -/
def Always (P : Entries → Prop) (d : Directory) : Prop :=
  ∀ kept, kept.Sublist d.pending → P (applyAll kept d.durable)

/-- What a power loss may leave of an entry: a synced file as it is, any other with any data. -/
def Survives : Option File → Option File → Prop
  | none, after => after = none
  | some file, after => ∃ left, after = some left ∧ (file.synced = true → left = file)

/-- The entries that a power loss may leave. -/
def Crash (d : Directory) (after : Entries) : Prop :=
  ∃ kept, kept.Sublist d.pending ∧
    ∀ name : String, Survives ((applyAll kept d.durable)[name]?) (after[name]?)

variable {P Q : Entries → Prop} {d : Directory} {update : Update}

@[simp]
theorem visible_push (d : Directory) (update : Update) :
    (d.push update).visible = update.apply d.visible := by
  simp [visible, push, applyAll]

@[simp]
theorem visible_sync (d : Directory) : d.sync.visible = d.visible := rfl

theorem Always.visible (h : Always P d) : P d.visible := h d.pending (List.Sublist.refl _)

theorem always_durable (h : P entries) : Always P ⟨entries, []⟩ := by
  intro kept hkept
  rw [show kept = [] from List.sublist_nil.mp hkept]
  exact h

theorem always_sync (h : P d.visible) : Always P d.sync := always_durable h

theorem Always.push (h : Always P d) (hlost : ∀ entries, P entries → Q entries)
    (hkept : ∀ entries, P entries → Q (update.apply entries)) : Always Q (d.push update) := by
  intro kept hsub
  obtain ⟨old, last, rfl, hold, hlast⟩ := List.sublist_append_iff.mp hsub
  rcases List.sublist_singleton.mp hlast with rfl | rfl
  · rw [List.append_nil]
    exact hlost _ (h old hold)
  · rw [applyAll, List.foldl_append]
    exact hkept _ (h old hold)

theorem Always.mono (h : Always P d) (hPQ : ∀ entries, P entries → Q entries) : Always Q d :=
  fun kept hkept => hPQ _ (h kept hkept)

/-- A property that does not look into unsynced files passes to what a power loss leaves. -/
theorem Always.crash (h : Always P d) (hcrash : Crash d left)
    (hstable : ∀ before after : Entries, P before →
      (∀ name : String, Survives (before[name]?) (after[name]?)) → P after) : P left := by
  obtain ⟨kept, hkept, hsurvives⟩ := hcrash
  exact hstable _ _ (h kept hkept) hsurvives

end Directory

/-! ## Procedures -/

/-- What happens at a system call: it is carried out, it fails and changes nothing, or it is
carried out and the machine goes down right after it. -/
inductive Fault where
  | ok
  | error
  | crash
deriving DecidableEq

/-- The directory with the faults of the coming system calls; no fault happens past the list. -/
structure Disk where
  directory : Directory
  faults : List Fault

/-- The outcome of a procedure with a receiver `σ`. -/
inductive Outcome (σ α : Type) where
  | returned (result : Except Error α) (receiver : σ) (disk : Disk)
  | crashed (directory : Directory)

/-- A procedure with a receiver `σ` that returns an `α` or an error. -/
def Proc (σ α : Type) : Type := σ → Disk → Outcome σ α

namespace Proc

variable {σ α β : Type}

def pure (a : α) : Proc σ α := fun s d => .returned (.ok a) s d

/-- An error skips the rest of the block, as `if err != nil { return err }` does. -/
def bind (p : Proc σ α) (f : α → Proc σ β) : Proc σ β := fun s d =>
  match p s d with
  | .returned (.ok a) s d => f a s d
  | .returned (.error e) s d => .returned (.error e) s d
  | .crashed directory => .crashed directory

instance : Monad (Proc σ) where
  pure := Proc.pure
  bind := Proc.bind

/-- The outcome of a function without effects. -/
def ofExcept (x : Except Error α) : Proc σ α := fun s d => .returned x s d

instance : MonadLift (Except Error) (Proc σ) where
  monadLift := ofExcept

/-- The receiver. -/
def receiver : Proc σ σ := fun s d => .returned (.ok s) s d

/-- Assignment to fields of the receiver. -/
def update (f : σ → σ) : Proc σ Unit := fun s d => .returned (.ok ()) (f s) d

/-- The entries that the directory shows. -/
def entries : Proc σ Entries := fun s d => .returned (.ok d.directory.visible) s d

/-- The error that a procedure returns, as a value. -/
def attempt (p : Proc σ α) : Proc σ (Except Error α) := fun s d =>
  match p s d with
  | .returned r s d => .returned (.ok r) s d
  | .crashed directory => .crashed directory

/-- `fmt.Errorf` with the `%w` verb around the error of a procedure. -/
def wrapping (context : String) (p : Proc σ α) : Proc σ α := fun s d =>
  match p s d with
  | .returned (.error e) s d => .returned (.error (.wrap context e)) s d
  | outcome => outcome

/-- A system call that changes the directory. -/
def call (action : Directory → Except Error Directory) : Proc σ Unit := fun s d =>
  match d.faults, action d.directory with
  | .crash :: _, .ok directory => .crashed directory
  | .crash :: _, .error _ => .crashed d.directory
  | .error :: faults, _ =>
    .returned (.error (.text "input/output error")) s ⟨d.directory, faults⟩
  | faults, .ok directory => .returned (.ok ()) s ⟨directory, faults.tail⟩
  | faults, .error e => .returned (.error e) s ⟨d.directory, faults.tail⟩

end Proc

/-! ## System calls -/

section SystemCalls

variable {σ : Type}

/-- `open` with `O_CREATE|O_EXCL`: an empty file under a name that must be free. -/
def createExclusive (name : String) : Proc σ Unit := .call fun d =>
  if name ∈ d.visible then .error (.text "file exists")
  else .ok (d.push (.set name ⟨[], false⟩))

/-- `write` of the whole text of a file that is open for writing. -/
def write (name : String) (data : List Char) : Proc σ Unit := .call fun d =>
  .ok (d.push (.set name ⟨data, false⟩))

/-- `fsync` of an open file with the given text. -/
def fsync (name : String) (data : List Char) : Proc σ Unit := .call fun d =>
  .ok (d.push (.set name ⟨data, true⟩))

/-- `fchmod` and `close` change nothing that a later step looks at, but they may fail. -/
def noEffect : Proc σ Unit := .call fun d => .ok d

/-- `link`: a second name for an existing file; the new name must be free. -/
def link (old new : String) : Proc σ Unit := .call fun d =>
  match d.visible[old]? with
  | none => .error (.text "no such file or directory")
  | some file =>
    if new ∈ d.visible then .error (.text "file exists") else .ok (d.push (.set new file))

/-- `unlink`. -/
def unlink (name : String) : Proc σ Unit := .call fun d =>
  if name ∈ d.visible then .ok (d.push (.remove name))
  else .error (.text "no such file or directory")

/-- `rename`: atomically replaces the new name. -/
def rename (old new : String) : Proc σ Unit := .call fun d =>
  match d.visible[old]? with
  | none => .error (.text "no such file or directory")
  | some file => .ok (d.push (.rename old new file))

/-- `open` and `fsync` of the directory itself. -/
def syncDirectory : Proc σ Unit := .call fun d => .ok d.sync

end SystemCalls

/-! ## Weakest preconditions -/

section Wp

variable {σ α β : Type}

/-- The procedure returns with `Q`, or the machine goes down with `C`. -/
def wp (p : Proc σ α) (Q : Except Error α → σ → Disk → Prop) (C : Directory → Prop) (s : σ)
    (d : Disk) : Prop :=
  match p s d with
  | .returned r s d => Q r s d
  | .crashed directory => C directory

/-- The postcondition of the first part of a block whose remainder has the precondition `K`. -/
def andThen (K : α → σ → Disk → Prop) (Q : Except Error β → σ → Disk → Prop) :
    Except Error α → σ → Disk → Prop
  | .ok a, s, d => K a s d
  | .error e, s, d => Q (.error e) s d

variable {Q Q' : Except Error α → σ → Disk → Prop} {C C' : Directory → Prop} {s : σ} {d : Disk}

@[simp]
theorem andThen_ok (K : α → σ → Disk → Prop) (Q : Except Error β → σ → Disk → Prop) (a : α) :
    andThen K Q (.ok a) s d ↔ K a s d := Iff.rfl

@[simp]
theorem wp_pure (a : α) : wp (pure a) Q C s d ↔ Q (.ok a) s d := Iff.rfl

@[simp]
theorem wp_liftM (x : Except Error α) : wp (liftM x : Proc σ α) Q C s d ↔ Q x s d := Iff.rfl

@[simp]
theorem wp_receiver {Q : Except Error σ → σ → Disk → Prop} :
    wp Proc.receiver Q C s d ↔ Q (.ok s) s d := Iff.rfl

@[simp]
theorem wp_update (f : σ → σ) {Q : Except Error Unit → σ → Disk → Prop} :
    wp (Proc.update f) Q C s d ↔ Q (.ok ()) (f s) d := Iff.rfl

@[simp]
theorem wp_entries {Q : Except Error Entries → σ → Disk → Prop} :
    wp Proc.entries Q C s d ↔ Q (.ok d.directory.visible) s d := Iff.rfl

@[simp]
theorem wp_bind (p : Proc σ α) (f : α → Proc σ β) {Q : Except Error β → σ → Disk → Prop} :
    wp (p >>= f) Q C s d ↔ wp p (andThen (fun a => wp (f a) Q C) Q) C s d := by
  change wp (p.bind f) Q C s d ↔ _
  unfold wp Proc.bind
  rcases p s d with ⟨_ | _, _, _⟩ | _ <;> exact Iff.rfl

@[simp]
theorem wp_attempt (p : Proc σ α) {Q : Except Error (Except Error α) → σ → Disk → Prop} :
    wp p.attempt Q C s d ↔ wp p (fun r => Q (.ok r)) C s d := by grind [wp, Proc.attempt]

@[simp]
theorem wp_wrapping (context : String) (p : Proc σ α) : wp (p.wrapping context) Q C s d ↔ wp p (fun
    r => Q (r.mapError (.wrap context))) C s d := by
  unfold wp Proc.wrapping
  rcases p s d with ⟨_ | _, _, _⟩ | _ <;> exact Iff.rfl

theorem wp_mono (h : wp p Q C s d) (hQ : ∀ r s d, Q r s d → Q' r s d)
    (hC : ∀ directory, C directory → C' directory) : wp p Q' C' s d := by
  revert h
  unfold wp
  rcases p s d with ⟨r, s', d'⟩ | directory
  · exact hQ r s' d'
  · exact hC directory

theorem wp_returned (h : wp p Q C s d) (hrun : p s d = .returned r s' d') : Q r s' d' := by
  rwa [wp, hrun] at h

theorem wp_crashed (h : wp p Q C s d) (hrun : p s d = .crashed directory) : C directory := by
  rwa [wp, hrun] at h

/-! ### System calls

The faults to come stay within a list `F` in which no call fails, so that all that can happen is
that the machine goes down, and that only if `F` has a crash. -/

variable {F : List Fault} {action : Directory → Except Error Directory}

/-- What has to hold for a call that leaves the directory `after`: the machine may go down behind it,
or the call returns. -/
structure Leaves (F : List Fault) (Q : Except Error Unit → σ → Disk → Prop) (C : Directory → Prop)
    (s : σ) (outcome : Except Error Unit) (after : Directory) : Prop where
  crash : Fault.crash ∈ F → C after
  returns : ∀ faults, faults ⊆ F → Q outcome s ⟨after, faults⟩

variable {Q : Except Error Unit → σ → Disk → Prop} (hF : Fault.error ∉ F) (hd : d.faults ⊆ F)

include hF hd

theorem wp_call_cases (h : Leaves F Q C s ((action d.directory).map fun _ => ())
    ((action d.directory).toOption.getD d.directory)) : wp (.call action) Q C s d := by
  obtain ⟨hcrash, hreturn⟩ := h
  obtain ⟨directory, faults⟩ := d
  have htail : faults.tail ⊆ F := fun fault h => hd (List.mem_of_mem_tail h)
  unfold wp Proc.call
  rcases faults with _ | ⟨_ | _ | _, rest⟩
  · grind [Except.toOption, Except.map]
  · grind [Except.toOption, Except.map]
  · exact absurd (hd List.mem_cons_self) hF
  · grind [List.mem_cons_self, Except.toOption]

/-- A call that the directory allows. -/
theorem wp_call (haction : action d.directory = .ok after) (h : Leaves F Q C s (.ok ()) after) :
    wp (.call action) Q C s d := by
  refine wp_call_cases hF hd ?_
  rw [haction]
  exact h

theorem wp_call_refused (haction : action d.directory = .error e)
    (h : Leaves F Q C s (.error e) d.directory) : wp (.call action) Q C s d := by
  refine wp_call_cases hF hd ?_
  rw [haction]
  exact h

section Calls

variable {name old new : String} {data : List Char} {file : File}

theorem wp_createExclusive (hfree : name ∉ d.directory.visible)
    (h : Leaves F Q C s (.ok ()) (d.directory.push (.set name ⟨[], false⟩))) :
    wp (createExclusive name) Q C s d := wp_call hF hd (if_neg hfree) h

theorem wp_write (h : Leaves F Q C s (.ok ()) (d.directory.push (.set name ⟨data, false⟩))) :
    wp (write name data) Q C s d := wp_call hF hd rfl h

theorem wp_fsync (h : Leaves F Q C s (.ok ()) (d.directory.push (.set name ⟨data, true⟩))) :
    wp (fsync name data) Q C s d := wp_call hF hd rfl h

theorem wp_noEffect (h : Leaves F Q C s (.ok ()) d.directory) : wp noEffect Q C s d :=
  wp_call hF hd rfl h

theorem wp_link (hold : d.directory.visible[old]? = some file) (hnew : new ∉ d.directory.visible)
    (h : Leaves F Q C s (.ok ()) (d.directory.push (.set new file))) : wp (link old new) Q C s d :=
  wp_call hF hd (by simp only [hold, if_neg hnew]) h

theorem wp_unlink (hname : name ∈ d.directory.visible)
    (h : Leaves F Q C s (.ok ()) (d.directory.push (.remove name))) : wp (unlink name) Q C s d :=
  wp_call hF hd (if_pos hname) h

theorem wp_unlink_missing (hname : name ∉ d.directory.visible)
    (h : Leaves F Q C s (.error (.text "no such file or directory")) d.directory) :
    wp (unlink name) Q C s d := wp_call_refused hF hd (if_neg hname) h

theorem wp_rename (hold : d.directory.visible[old]? = some file)
    (h : Leaves F Q C s (.ok ()) (d.directory.push (.rename old new file))) :
    wp (rename old new) Q C s d := wp_call hF hd (by simp only [hold]) h

theorem wp_syncDirectory (h : Leaves F Q C s (.ok ()) d.directory.sync) :
    wp syncDirectory Q C s d := wp_call hF hd rfl h

end Calls

end Wp

end GoLib
