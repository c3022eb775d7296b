import XiaozhiPlatform.Generation.History

/-!
# Record files on disk

What the directory of the coordinator holds, and what each procedure of the store does to it when
no system call fails but the machine may go down at any moment.

A history is the list of committed records, the newest first. `Chain key history` says that the
history is one that `loadLocked` accepts, `Holds history entries` that a directory image consists
of exactly its record files, `CURRENT` and temporary files.

- `wp_commitLocked`: a commit extends the history by one record, and a power loss in the middle of
  it leaves the old or the new history.
- `wp_loadLocked`: loading a directory that holds a history yields its newest record.
-/

namespace XiaozhiPlatform.Generation

open GoLib

/-! ## File names -/

theorem length_padded (h : n < 10 ^ 20) : (padded n).length = 20 := by
  have := length_formatNat_le (by decide) h
  rw [padded, List.length_append, List.length_replicate]
  omega

theorem parseNat_padded (n : ℕ) : parseNat (padded n) = some n := by
  have hne : padded n ≠ [] := by simp [padded, formatNat_ne_nil]
  have hdigits : (padded n).all Char.isDigit = true := by
    rw [List.all_eq_true]
    intro c hc
    rcases List.mem_append.mp hc with hc | hc
    · rw [List.eq_of_mem_replicate hc]
      decide
    · exact isDigit_of_mem_formatNat hc
  rw [parseNat, if_pos ⟨hne, hdigits⟩, padded, Nat.ofDigitChars_append,
    Nat.ofDigitChars_replicate_zero, Nat.mul_zero, formatNat, Nat.ofDigitChars_ten_toDigits]

theorem toList_stateFileName (revision : UInt64) :
    (stateFileName revision).toList =
      "state-".toList ++ padded revision.toNat ++ ".json".toList :=
  String.toList_ofList

theorem length_padded_revision (revision : UInt64) : (padded revision.toNat).length = 20 := by
  have := revision.toNat_lt
  exact length_padded (by omega)

theorem ascii_padded (h : c ∈ padded n) : c.toNat < 128 := by
  rcases List.mem_append.mp h with h | h
  · rw [List.eq_of_mem_replicate h]
    decide
  · exact ascii_of_isDigit (isDigit_of_mem_formatNat h)

theorem byteLength_stateFileName (revision : UInt64) :
    byteLength (stateFileName revision).toList = 31 := by
  have hascii : ∀ c ∈ padded revision.toNat, c.toNat < 128 := fun c hc => ascii_padded hc
  have hprefix : byteLength "state-".toList = 6 := by decide
  have hsuffix : byteLength ".json".toList = 5 := by decide
  rw [toList_stateFileName, byteLength_append, byteLength_append, byteLength_of_ascii hascii,
    length_padded_revision, hprefix, hsuffix]

theorem parseStateFileName_stateFileName (h : revision ≠ 0) :
    parseStateFileName (stateFileName revision) = some revision := by
  have hpos : 0 < revision.toNat := by
    rw [Nat.pos_iff_ne_zero]
    exact fun hzero => h (UInt64.toNat_inj.mp hzero)
  have hdigits : ((stateFileName revision).toList.drop 6).take
      ((stateFileName revision).toList.length - 11) = padded revision.toNat := by
    have hlength := length_padded_revision revision
    rw [toList_stateFileName, List.append_assoc]
    simp [hlength]
  have hstart : "state-".toList <+: (stateFileName revision).toList := by
    rw [toList_stateFileName, List.append_assoc]
    exact List.prefix_append _ _
  have hend : ".json".toList <:+ (stateFileName revision).toList := by
    rw [toList_stateFileName]
    exact List.suffix_append _ _
  have hname : ¬ (byteLength (stateFileName revision).toList ≠ 31 ∨
      ¬ "state-".toList <+: (stateFileName revision).toList ∨
      ¬ ".json".toList <:+ (stateFileName revision).toList) := by grind [byteLength_stateFileName]
  simp only [parseStateFileName, if_neg hname, hdigits, parseNat_padded]
  rw [if_pos ⟨revision.toNat_lt, hpos, trivial⟩, UInt64.ofNat_toNat]

theorem eq_stateFileName_of_parse
    (h : parseStateFileName name = some revision) : name = stateFileName revision := by
  simp only [parseStateFileName] at h
  split at h
  · cases h
  case isFalse hname =>
    rw [not_or, not_or, not_not, not_not, not_not] at hname
    obtain ⟨-, ⟨rest, hrest⟩, ⟨front, hfront⟩⟩ := hname
    split at h
    · cases h
    case h_2 value _ =>
      split at h
      case isFalse => cases h
      case isTrue hcanonical =>
        obtain ⟨hlt, -, hpadded⟩ := hcanonical
        obtain rfl := Option.some.inj h
        -- The padded number is at least twenty digits long, so prefix and suffix do not overlap.
        have hlong : 20 ≤ (padded value).length := by grind [padded]
        have hrestLength : rest.length + 6 = name.toList.length := by grind
        have hfrontLength : front.length + 5 = name.toList.length := by grind
        have hdrop : name.toList.drop 6 = rest := by
          rw [← hrest]
          rfl
        rw [hdrop] at hpadded
        rw [hpadded, List.length_take] at hlong
        have htail : rest.drop (name.toList.length - 11) = ".json".toList := by grind
        apply String.toList_inj.mp
        rw [toList_stateFileName, UInt64.toNat_ofNat_of_lt' hlt, hpadded, List.append_assoc,
          ← htail, List.take_append_drop, hrest]

/-! ### The three kinds of names -/

theorem stateFileName_inj {left right : UInt64} (h : stateFileName left = stateFileName right) :
    left = right := by
  have hlist : (stateFileName left).toList = (stateFileName right).toList := by rw [h]
  rw [toList_stateFileName, toList_stateFileName] at hlist
  have hpadded := List.append_cancel_left (List.append_cancel_right hlist)
  have hvalue := parseNat_padded left.toNat
  rw [hpadded, parseNat_padded] at hvalue
  exact UInt64.toNat_inj.mp (Option.some.inj hvalue).symm

theorem head_stateFileName (revision : UInt64) :
    (stateFileName revision).toList.head? = some 's' := by
  rw [toList_stateFileName, List.append_assoc]
  rfl

theorem not_isTemporary_stateFileName (revision : UInt64) :
    ¬ IsTemporary (stateFileName revision) := by
  have hhead := head_stateFileName revision
  rintro (⟨rest, hrest⟩ | ⟨rest, hrest⟩)
  · grind
  · grind

theorem stateFileName_ne_current (revision : UInt64) : stateFileName revision ≠ "CURRENT" := by
  intro h
  have hhead := head_stateFileName revision
  rw [h] at hhead
  exact absurd hhead (by decide)

theorem not_isTemporary_current : ¬ IsTemporary "CURRENT" := by decide

theorem isTemporary_stateTempName (revision : UInt64) : IsTemporary (stateTempName revision) :=
  Or.inl ⟨formatNat revision.toNat, String.toList_ofList.symm⟩

theorem isTemporary_currentTempName (revision : UInt64) : IsTemporary (currentTempName revision) :=
  Or.inr ⟨formatNat revision.toNat, String.toList_ofList.symm⟩

/-! ## Directory images -/

/-- A name beside those of the record files. -/
def IsAside (name : String) : Prop := name = "CURRENT" ∨ IsTemporary name
deriving Decidable

theorem not_isAside_stateFileName (revision : UInt64) : ¬ IsAside (stateFileName revision) := by
  rintro (h | h)
  · exact stateFileName_ne_current revision h
  · exact not_isTemporary_stateFileName revision h

theorem IsAside.ne_stateFileName (h : IsAside name) (revision : UInt64) :
    name ≠ stateFileName revision := by
  rintro rfl
  exact not_isAside_stateFileName _ h

/-- The image holds exactly the record files of the history, beside `CURRENT` and temporary
files. -/
structure Holds (history : List State) (entries : Entries) : Prop where
  records : ∀ record ∈ history,
    entries[stateFileName record.revision]? = some ⟨payload record, true⟩
  names : ∀ name ∈ entries, IsAside name ∨
    ∃ record ∈ history, name = stateFileName record.revision

/-- A property of images that does not depend on `CURRENT` and temporary files. -/
structure IgnoresAside (P : Entries → Prop) : Prop where
  insert : ∀ (name : String) (file : File) (entries : Entries), IsAside name → P entries →
    P (entries.insert name file)
  erase : ∀ (name : String) (entries : Entries), IsAside name → P entries →
    P (entries.erase name)

theorem Holds.ignoresAside (history : List State) : IgnoresAside (Holds history) where
  insert name file entries hname h := by
    refine ⟨fun record hrecord => ?_, fun other hother => ?_⟩
    · rw [Map.getElem?_insert, if_neg (hname.ne_stateFileName _)]
      exact h.records record hrecord
    · rw [Map.mem_insert] at hother
      rcases hother with rfl | hother
      · exact Or.inl hname
      · exact h.names other hother
  erase name entries hname h := by
    refine ⟨fun record hrecord => ?_, fun other hother => ?_⟩
    · rw [Map.getElem?_erase, if_neg (hname.ne_stateFileName _)]
      exact h.records record hrecord
    · exact h.names other (Map.mem_erase.mp hother).2

theorem IgnoresAside.or {P Q : Entries → Prop} (hP : IgnoresAside P) (hQ : IgnoresAside Q) :
    IgnoresAside fun entries => P entries ∨ Q entries where
  insert name file entries hname h :=
    h.imp (hP.insert name file entries hname) (hQ.insert name file entries hname)
  erase name entries hname h := h.imp (hP.erase name entries hname) (hQ.erase name entries hname)

variable {entries : Entries} {record : State}

theorem Holds.link {history : List State} (h : Holds history
    entries) (hnew : ∀ old ∈ history, old.revision ≠ record.revision) : Holds (record :: history)
    (entries.insert (stateFileName record.revision) ⟨payload record, true⟩) := by
  refine ⟨fun other hother => ?_, fun name hname => ?_⟩
  · rw [Map.getElem?_insert]
    rcases List.mem_cons.mp hother with rfl | hother
    · rw [if_pos rfl]
    · rw [if_neg fun heq => hnew other hother (stateFileName_inj heq).symm]
      exact h.records other hother
  · rw [Map.mem_insert] at hname
    rcases hname with rfl | hname
    · grind
    · exact (h.names name hname).imp_right fun ⟨old, hold, heq⟩ =>
        ⟨old, List.mem_cons_of_mem _ hold, heq⟩

theorem Holds.survives (h : Holds history before)
    (hsurvives : ∀ name : String, Directory.Survives (before[name]?) (after[name]?)) :
    Holds history after := by
  refine ⟨fun record hrecord => ?_, fun name hname => ?_⟩
  · have hfile := hsurvives (stateFileName record.revision)
    rw [h.records record hrecord] at hfile
    obtain ⟨left, hleft, hsame⟩ := hfile
    rw [hleft, hsame rfl]
  · apply h.names
    have hfile := hsurvives name
    rw [Std.ExtTreeMap.mem_iff_isSome_getElem?] at hname ⊢
    cases hbefore : before[name]? with
    | none =>
      rw [hbefore] at hfile
      rw [show after[name]? = none from hfile] at hname
      exact hname
    | some file => rfl

/-- No temporary file is left over. -/
def Tidy (entries : Entries) : Prop := ∀ name ∈ entries, ¬ IsTemporary name

/-! ## Writing a file -/

variable {Q : Except Error Unit → Store → Disk → Prop} {files : Entries}

section Procedures

variable {P : Entries → Prop} {C : Directory → Prop} {F : List Fault} {d : Disk}

theorem wp_writeSyncedExclusive {σ : Type} {s : σ} {name : String} {data : List Char} {Q : Except
    Error Unit → σ → Disk → Prop} (hF : Fault.error ∉ F) (hd : d.faults ⊆ F) (hP : IgnoresAside P)
    (hname : IsAside name) (hfree : name ∉ d.directory.visible) (halways : d.directory.Always P)
    (hcrash : Fault.crash ∈ F → ∀ directory, directory.Always P → C directory) (hreturn : ∀ later :
    Disk, later.faults ⊆ F → later.directory.Always P → later.directory.visible =
    d.directory.visible.insert name ⟨data, true⟩ → Q (.ok ()) s later) : wp (writeSyncedExclusive
    name data) Q C s d := by
  have hset : ∀ (directory : Directory) (file : File), directory.Always P →
      (directory.push (.set name file)).Always P := fun directory file h =>
    h.push (fun _ h => h) fun entries => hP.insert name file entries hname
  have hcreate := hset _ ⟨[], false⟩ halways
  have hwrite := hset _ ⟨data, false⟩ hcreate
  have hsync := hset _ ⟨data, true⟩ hwrite
  unfold writeSyncedExclusive
  rw [wp_bind]
  refine wp_createExclusive hF hd hfree ⟨fun h => hcrash h _ hcreate, fun faults hfaults => ?_⟩
  rw [andThen_ok, wp_bind, wp_attempt, wp_bind]
  refine wp_write hF hfaults ⟨fun h => hcrash h _ hwrite, fun faults hfaults => ?_⟩
  rw [andThen_ok, wp_bind]
  refine wp_noEffect hF hfaults ⟨fun h => hcrash h _ hwrite, fun faults hfaults => ?_⟩
  rw [andThen_ok, wp_bind]
  refine wp_fsync hF hfaults ⟨fun h => hcrash h _ hsync, fun faults hfaults => ?_⟩
  refine wp_noEffect hF hfaults ⟨fun h => hcrash h _ hsync, fun faults hfaults => ?_⟩
  apply hreturn _ hfaults hsync
  simp only [Directory.visible_push, Update.apply]
  ext1
  simp only [Map.getElem?_insert]
  split <;> rfl

theorem wp_writeCurrentLocked {s : Store} (hF :
    Fault.error ∉ F) (hd : d.faults ⊆ F) (hP : IgnoresAside P) (halways : d.directory.Always P)
    (htidy : Tidy d.directory.visible) (hcrash : Fault.crash ∈ F → ∀ directory, directory.Always P →
    C directory) (hreturn : ∀ later : Disk, later.faults ⊆ F → later.directory.Always P → Tidy
    later.directory.visible → Q (.ok ()) s later) : wp writeCurrentLocked Q C s d := by
  have htemp := isTemporary_currentTempName s.state.revision
  have hfree : currentTempName s.state.revision ∉ d.directory.visible :=
    fun hmem => htidy _ hmem htemp
  unfold writeCurrentLocked
  rw [wp_bind, wp_receiver, andThen_ok, wp_bind, wp_attempt]
  refine wp_unlink_missing hF hd hfree ⟨fun h => hcrash h _ halways, fun faults hfaults => ?_⟩
  rw [andThen_ok, wp_bind, wp_wrapping]
  refine wp_writeSyncedExclusive hF hfaults hP (Or.inr htemp) hfree halways hcrash ?_
  intro later hfaults halways hvisible
  have hfile : later.directory.visible[currentTempName s.state.revision]? =
      some ⟨currentText ⟨s.state.revision, s.digest⟩, true⟩ := by
    rw [hvisible, Map.getElem?_insert, if_pos rfl]
  have hrenamed : ∀ file, (later.directory.push
      (.rename (currentTempName s.state.revision) "CURRENT" file)).Always P := fun file =>
    halways.push (fun _ h => h) fun entries h =>
      hP.insert _ file _ (Or.inl rfl) (hP.erase _ entries (Or.inr htemp) h)
  rw [Except.mapError, andThen_ok, wp_bind, wp_wrapping]
  refine wp_rename hF hfaults hfile ⟨fun h => hcrash h _ (hrenamed _), fun faults hfaults => ?_⟩
  have hsynced := Directory.always_sync (hrenamed ⟨currentText ⟨s.state.revision, s.digest⟩,
    true⟩).visible
  refine wp_syncDirectory hF hfaults ⟨fun h => hcrash h _ hsynced, fun faults hfaults => ?_⟩
  refine hreturn _ hfaults hsynced fun name hname => ?_
  rw [Directory.visible_sync, Directory.visible_push, hvisible, Update.apply, Map.mem_insert,
    Map.mem_erase, Map.mem_insert] at hname
  rcases hname with rfl | ⟨hne, rfl | hname⟩
  · exact not_isTemporary_current
  · exact absurd rfl hne
  · exact htidy name hname

/-! ## Commit -/

variable {history : List State} {store : Store} {next : State}

theorem holds_linked (h : Holds history entries) (hnew : ∀ old
    ∈ history, old.revision ≠ record.revision) : Holds (record :: history) (((entries.insert
    (stateTempName record.revision) ⟨payload record, true⟩).insert (stateFileName record.revision)
    ⟨payload record, true⟩).erase (stateTempName record.revision)) := by
  have htemp : IsAside (stateTempName record.revision) := Or.inr (isTemporary_stateTempName _)
  exact (Holds.ignoresAside _).erase _ _ htemp
    (((Holds.ignoresAside history).insert _ _ _ htemp h).link hnew)

/-- A commit adds one record file. Going down in the middle of it leaves the old history or the
new one; the check of the record comes before anything is written. -/
theorem wp_commitLocked_files (hF : Fault.error ∉ F)
    (hd : d.faults ⊆ F) (hholds : d.directory.Always (Holds history)) (htidy : Tidy
    d.directory.visible) (hnew : checkCommit store next = .ok () → ∀ old ∈ history, old.revision ≠
    next.revision) (hreject : ∀ e, checkCommit store next = .error e → Q (.error e) store d) (hcrash
    : Fault.crash ∈ F → checkCommit store next = .ok () → ∀ directory : Directory, directory.Always
    (fun entries => Holds history entries ∨ Holds (sign store.key next :: history) entries) → C
    directory) (hreturn : checkCommit store next = .ok () → ∀ later : Disk, later.faults ⊆ F →
    later.directory.Always (Holds (sign store.key next :: history)) → Tidy later.directory.visible →
    Q (.ok ()) (store.committed next) later) : wp (commitLocked next) Q C store d := by
  unfold commitLocked
  rw [wp_bind, wp_receiver, andThen_ok, wp_bind, wp_liftM]
  cases hcheck : checkCommit store next with
  | error e => exact hreject e hcheck
  | ok =>
    have hvisibleBefore := hholds.visible
    have hcrash := fun h => hcrash h hcheck
    have hreturn := hreturn hcheck
    set signed := sign store.key next with hsigned
    have htemp := isTemporary_stateTempName signed.revision
    have hnewSigned : ∀ old ∈ history, old.revision ≠ signed.revision := hnew hcheck
    have hfree : stateTempName signed.revision ∉ d.directory.visible :=
      fun hmem => htidy _ hmem htemp
    rw [andThen_ok, wp_bind, wp_wrapping]
    refine wp_writeSyncedExclusive hF hd (Holds.ignoresAside history) (Or.inr htemp) hfree hholds
      (fun h directory hold => hcrash h directory (hold.mono fun _ => Or.inl)) ?_
    intro later hfaults hholds hvisible
    have hfile : later.directory.visible[stateTempName signed.revision]? =
        some ⟨payload signed, true⟩ := by grind
    have hrecordFree : stateFileName signed.revision ∉ later.directory.visible := by
      intro hmem
      rcases hholds.visible.names _ hmem with haside | ⟨old, hold, heq⟩
      · exact not_isAside_stateFileName _ haside
      · exact hnewSigned old hold (stateFileName_inj heq).symm
    -- From the link to the sync of the directory the new record may or may not survive.
    have hlinked : (later.directory.push
        (.set (stateFileName signed.revision) ⟨payload signed, true⟩)).Always
          (fun entries => Holds history entries ∨ Holds (signed :: history) entries) :=
      hholds.push (fun _ => Or.inl) fun entries h => Or.inr (h.link hnewSigned)
    have hignores := (Holds.ignoresAside history).or (Holds.ignoresAside (signed :: history))
    have hremoved : ((later.directory.push
        (.set (stateFileName signed.revision) ⟨payload signed, true⟩)).push
          (.remove (stateTempName signed.revision))).Always
          (fun entries => Holds history entries ∨ Holds (signed :: history) entries) :=
      hlinked.push (fun _ h => h) fun entries h => hignores.erase _ entries (Or.inr htemp) h
    have hsynced : ((later.directory.push
        (.set (stateFileName signed.revision) ⟨payload signed, true⟩)).push
          (.remove (stateTempName signed.revision))).sync.Always (Holds (signed :: history)) := by
      grind [Directory.always_sync, Directory.visible_push, Update.apply, holds_linked]
    rw [Except.mapError, andThen_ok, wp_bind, wp_wrapping]
    refine wp_link hF hfaults hfile hrecordFree ⟨fun h => hcrash h _ hlinked,
      fun faults hfaults => ?_⟩
    rw [Except.mapError, andThen_ok, wp_bind, wp_wrapping]
    refine wp_unlink hF hfaults ?_ ⟨fun h => hcrash h _ hremoved, fun faults hfaults => ?_⟩
    · simp only [Directory.visible_push, hvisible, Update.apply, Map.mem_insert, true_or, or_true]
    rw [Except.mapError, andThen_ok, wp_bind]
    refine wp_syncDirectory hF hfaults ⟨fun h => hcrash h _ (hsynced.mono fun _ => Or.inr),
      fun faults hfaults => ?_⟩
    rw [andThen_ok, wp_bind, wp_update, andThen_ok]
    refine wp_writeCurrentLocked hF hfaults (Holds.ignoresAside _) hsynced ?_
      (fun h directory hholds => hcrash h directory (hholds.mono fun _ => Or.inr)) hreturn
    intro name hname
    simp only [Directory.visible_sync, Directory.visible_push, hvisible, Update.apply,
      Map.mem_insert, Map.mem_erase] at hname
    rcases hname with ⟨hne, rfl | rfl | hname⟩
    · exact not_isTemporary_stateFileName _
    · exact absurd rfl hne
    · exact htidy name hname

/-- The coordinator is running, with the history in its directory. -/
structure Up (key : List UInt8) (store : Store) (history : List State) (directory : Directory) :
    Prop extends Running key store history where
  holds : directory.Always (Holds history)
  tidy : Tidy directory.visible

variable {key : List UInt8}

/-- A commit by a running coordinator: the record is refused and nothing changes, or the history
grows by it. -/
theorem wp_commitLocked (hF : Fault.error
    ∉ F) (hd : d.faults ⊆ F) (hup : Up key store history d.directory) (hmove : Move store now next)
    (hreject : ∀ e, checkCommit store next = .error e → Q (.error e) store d) (hcrash : Fault.crash
    ∈ F → checkCommit store next = .ok () → ∀ directory : Directory, directory.Always (fun entries
    => Holds history entries ∨ Holds (sign key next :: history) entries) → C directory) (hreturn :
    checkCommit store next = .ok () → ∀ later : Disk, later.faults ⊆ F → Up key (store.committed
    next) (sign key next :: history) later.directory → Q (.ok ()) (store.committed next) later) : wp
    (commitLocked next) Q C store d := by
  obtain rfl := hup.key_eq
  refine wp_commitLocked_files hF hd hup.holds hup.tidy (hup.revision_ne hmove) hreject hcrash ?_
  intro hcheck later hfaults hholds htidy
  exact hreturn hcheck later hfaults ⟨hup.commit hmove hcheck, hholds, htidy⟩

/-! ## Opening -/

/-- The revisions of the record files among the names of a directory. -/
def recordRevisions (names : List String) : List UInt64 :=
  names.filterMap fun name => if IsAside name then none else parseStateFileName name

theorem mem_recordRevisions_keys (hchain : Chain key history)
    (h : Holds history entries) (revision : UInt64) :
    revision ∈ recordRevisions entries.keys ↔ revision ∈ history.map State.revision := by
  have hnonzero : ∀ record ∈ history, record.revision ≠ 0 := fun record hrecord =>
    (hchain.sound hrecord).valid.revision
  simp only [recordRevisions, List.mem_filterMap, List.mem_map, Std.ExtTreeMap.mem_keys]
  constructor
  · rintro ⟨name, hname, hrevision⟩
    split at hrevision
    · cases hrevision
    case isFalse haside =>
      obtain ⟨record, hrecord, rfl⟩ := (h.names name hname).resolve_left haside
      rw [parseStateFileName_stateFileName (hnonzero record hrecord)] at hrevision
      exact ⟨record, hrecord, Option.some.inj hrevision⟩
  · rintro ⟨record, hrecord, rfl⟩
    refine ⟨stateFileName record.revision, ?_, ?_⟩
    · rw [Std.ExtTreeMap.mem_iff_isSome_getElem?, h.records record hrecord]
      rfl
    · grind [not_isAside_stateFileName, parseStateFileName_stateFileName]

theorem length_recordRevisions_keys (hchain : Chain key history)
    (h : Holds history entries) : (recordRevisions entries.keys).length = history.length := by
  have hnodup : (recordRevisions entries.keys).Nodup := by
    refine Std.ExtTreeMap.nodup_keys.filterMap fun left right revision hleft hright => ?_
    split at hleft
    · cases hleft
    · split at hright
      · cases hright
      · rw [eq_stateFileName_of_parse hleft, eq_stateFileName_of_parse hright]
  have hperm := (List.perm_ext_iff_of_nodup hnodup hchain.nodup_revisions).mpr
    (mem_recordRevisions_keys hchain h)
  rw [hperm.length_eq, List.length_map]

theorem wp_scanEntries {Q : Except Error (List UInt64) → Store → Disk → Prop} (hF :
    Fault.error ∉ F) (hchain : Chain key history) (hcrash : Fault.crash ∈ F → ∀ directory,
    directory.Always (Holds history) → C directory) (names : List String) : ∀ {d : Disk}, d.faults ⊆
    F → d.directory.Always (Holds history) → names.Nodup → (∀ name ∈ names, name ∈
    d.directory.visible) → (∀ name ∈ d.directory.visible, IsTemporary name → name ∈ names) → (∀
    later : Disk, later.faults ⊆ F → later.directory.Always (Holds history) → Tidy
    later.directory.visible → Q (.ok (recordRevisions names)) s later) → wp (scanEntries names) Q C
    s d := by
  induction names generalizing Q with
  | nil =>
    intro d hd hholds _ _ htemps hreturn
    exact hreturn d hd hholds fun name hname htemp => by simpa using htemps name hname htemp
  | cons name rest ih =>
    intro d hd hholds hnodup hmem htemps hreturn
    obtain ⟨hnot, hrestNodup⟩ := List.nodup_cons.mp hnodup
    have hrest : ∀ other ∈ rest, other ∈ d.directory.visible := fun other hother =>
      hmem other (List.mem_cons_of_mem _ hother)
    have hothers (hname : ¬ IsTemporary name) :
        ∀ other ∈ d.directory.visible, IsTemporary other → other ∈ rest := by
      intro other hother htemp
      refine (List.mem_cons.mp (htemps other hother htemp)).resolve_left ?_
      rintro rfl
      exact hname htemp
    have hsame (haside : IsAside name) : recordRevisions (name :: rest) = recordRevisions rest := by
      simp [recordRevisions, haside]
    unfold scanEntries
    split
    case isTrue hcurrent =>
      rw [hsame (.inl hcurrent)] at hreturn
      exact ih hd hholds hrestNodup hrest (hothers (hcurrent ▸ not_isTemporary_current)) hreturn
    case isFalse hcurrent =>
      split
      case isTrue htemp =>
        have hremoved : (d.directory.push (.remove name)).Always (Holds history) :=
          hholds.push (fun _ h => h) fun entries h =>
            (Holds.ignoresAside history).erase name entries (Or.inr htemp) h
        rw [wp_bind, wp_wrapping]
        refine wp_unlink hF hd (hmem name List.mem_cons_self) ⟨fun h => hcrash h _ hremoved,
          fun faults hfaults => ?_⟩
        rw [Except.mapError, andThen_ok]
        rw [hsame (.inr htemp)] at hreturn
        refine ih hfaults hremoved hrestNodup (fun other hother => ?_)
          (fun other hother htemp => ?_) hreturn
        · rw [Directory.visible_push, Update.apply, Map.mem_erase]
          exact ⟨fun heq => hnot (heq ▸ hother), hrest other hother⟩
        · rw [Directory.visible_push, Update.apply, Map.mem_erase] at hother
          exact (List.mem_cons.mp (htemps other hother.2 htemp)).resolve_left hother.1.symm
      case isFalse htemp =>
        have haside : ¬ IsAside name := not_or.mpr ⟨hcurrent, htemp⟩
        obtain ⟨record, hrecord, rfl⟩ :=
          (hholds.visible.names name (hmem name List.mem_cons_self)).resolve_left haside
        have hparse := parseStateFileName_stateFileName (hchain.sound hrecord).valid.revision
        simp only [hparse]
        rw [wp_bind]
        refine ih hd hholds hrestNodup hrest (hothers htemp) fun later hl ha ht => ?_
        have hcons : recordRevisions (stateFileName record.revision :: rest) =
            record.revision :: recordRevisions rest := by
          simp only [recordRevisions, List.filterMap_cons, if_neg haside, hparse]
        rw [andThen_ok, wp_pure, ← hcons]
        exact hreturn later hl ha ht

theorem readBoundedRegular_record (hchain : Chain key history)
    (hrecord : record ∈ history) (hfile : files[stateFileName record.revision]? = some ⟨payload
    record, true⟩) : readBoundedRegular files (stateFileName record.revision) maximumStateBytes =
    .ok (payload record) := by
  have hlarge := hchain.byteLength_payload_le hrecord
  have hsmall : 1 ≤ byteLength (payload record) := by
    rw [payload, byteLength_append]
    have : byteLength ['\n'] = 1 := by decide
    omega
  simp only [readBoundedRegular, hfile]
  rw [failIf_of_neg (by omega), ok_bind]
  rfl

theorem loadRecord_eq (hchain : Chain key history) (hrecord : record ∈ history) (hfile :
    files[stateFileName record.revision]? = some ⟨payload record, true⟩) (hrevision :
    record.revision ∈ revisions) (hgenesis : record.revision = 1 → record.previousRecordSHA256 =
    zeroDigest ∧ record.phase = .stable) (hlater : record.revision ≠ 1 → validateTransition previous
    record previousDigest = .ok ()) : loadRecord key files revisions previous previousDigest
    record.revision = .ok (record, recordDigest record) := by
  rw [loadRecord, failIf_of_neg (not_not.mpr hrevision), ok_bind,
    readBoundedRegular_record hchain hrecord hfile, Except.mapError, ok_bind,
    hchain.decode_payload hrecord, Except.mapError, ok_bind, failIf_of_neg (not_not.mpr rfl),
    ok_bind]
  by_cases hone : record.revision = 1
  · rw [if_pos hone, failIf_of_neg (by simp [hgenesis hone])]
    rfl
  · rw [if_neg hone, hlater hone]
    rfl

theorem replay_eq (hchain : Chain key history) (hfiles :
    ∀ record ∈ history, files[stateFileName record.revision]? = some ⟨payload record, true⟩)
    (hrevisions : ∀ record ∈ history, record.revision ∈ revisions) : ∃ newest, history.head? = some
    newest ∧ replay key files revisions history.length = .ok (newest, recordDigest newest) := by
  induction hchain with
  | @genesis state hsound hrevision hprevious hphase =>
    have hmem : sign key state ∈ [sign key state] := List.mem_cons_self
    have hone : UInt64.ofNat (0 + 1) = (sign key state).revision := by
      rw [revision_sign, hrevision]
      rfl
    refine ⟨sign key state, rfl, ?_⟩
    rw [List.length_singleton, replay, replay, ok_bind, hone]
    exact loadRecord_eq (.genesis hsound hrevision hprevious hphase) hmem (hfiles _ hmem)
      (hrevisions _ hmem) (fun _ => ⟨hprevious, hphase⟩) fun hne => absurd hrevision hne
  | @extend prior state older hchain hsound htransition ih =>
    have hmem : sign key state ∈ sign key state :: prior :: older := List.mem_cons_self
    have hlonger : Chain key (sign key state :: prior :: older) :=
      .extend hchain hsound htransition
    have hcount : (sign key state).revision.toNat = (prior :: older).length + 1 :=
      hlonger.revision_eq
    have hrevision : UInt64.ofNat ((prior :: older).length + 1) = (sign key state).revision := by
      rw [← hcount, UInt64.ofNat_toNat]
    obtain ⟨newest, hnewest, hreplay⟩ := ih
      (fun record hrecord => hfiles record (List.mem_cons_of_mem _ hrecord))
      (fun record hrecord => hrevisions record (List.mem_cons_of_mem _ hrecord))
    obtain rfl : prior = newest := Option.some.inj hnewest
    refine ⟨sign key state, rfl, ?_⟩
    rw [List.length_cons, replay, hreplay, ok_bind, hrevision]
    refine loadRecord_eq hlonger hmem (hfiles _ hmem) (hrevisions _ hmem) (fun hone => ?_)
      fun _ => htransition
    rw [hone, List.length_cons] at hcount
    simp at hcount

/-- Loading a directory that holds a history yields its newest record, with a fresh drain if it
is one of the phase DRAINING, and leaves the directory in order. -/
theorem wp_loadLocked (hF : Fault.error ∉
    F) (hd : d.faults ⊆ F) (hchain : Chain store.key history) (hholds : d.directory.Always (Holds
    history)) (hcrash : Fault.crash ∈ F → ∀ directory, directory.Always (Holds history) → C
    directory) (hreturn : ∀ later : Disk, later.faults ⊆ F → ∀ newest : State, Up store.key
    (store.loaded newest (recordDigest newest) now) history later.directory → Q (.ok ())
    (store.loaded newest (recordDigest newest) now) later) : wp (loadLocked now) Q C store d := by
  unfold loadLocked
  rw [wp_bind, wp_entries, andThen_ok, wp_bind]
  refine wp_scanEntries hF hchain hcrash _ hd hholds Std.ExtTreeMap.nodup_keys
    (fun name hname => Std.ExtTreeMap.mem_keys.mp hname)
    (fun name hname _ => Std.ExtTreeMap.mem_keys.mpr hname) ?_
  intro later hfaults hholdsLater htidy
  have hlength := length_recordRevisions_keys hchain hholds.visible
  have hne : recordRevisions d.directory.visible.keys ≠ [] := by
    rw [ne_eq, ← List.length_eq_zero_iff, hlength, List.length_eq_zero_iff]
    exact hchain.ne_nil
  obtain ⟨newest, hnewest, hreplay⟩ := replay_eq hchain hholdsLater.visible.records
    (fun record hrecord => (mem_recordRevisions_keys hchain hholds.visible _).mpr
      (List.mem_map_of_mem hrecord))
  rw [andThen_ok, wp_bind, wp_liftM, failIf_of_neg hne, andThen_ok, wp_bind, wp_receiver,
    andThen_ok, wp_bind, wp_entries, andThen_ok, wp_bind, wp_liftM, hlength, hreplay, andThen_ok,
    wp_bind, wp_update, andThen_ok, wp_bind, wp_receiver, andThen_ok]
  by_cases hmatches :
      currentMatches (store.loaded newest (recordDigest newest) now) later.directory.visible
  · rw [if_pos hmatches]
    exact hreturn later hfaults newest ⟨⟨hchain, hnewest, rfl, rfl⟩, hholdsLater, htidy⟩
  · rw [if_neg hmatches, wp_wrapping]
    refine wp_writeCurrentLocked hF hfaults (Holds.ignoresAside history) hholdsLater htidy hcrash ?_
    intro last hlast hholdsLast htidyLast
    exact hreturn last hlast newest ⟨⟨hchain, hnewest, rfl, rfl⟩, hholdsLast, htidyLast⟩

end Procedures

end XiaozhiPlatform.Generation
