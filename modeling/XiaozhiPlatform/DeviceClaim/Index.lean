import XiaozhiPlatform.DeviceClaim.Store

/-!
# The claims of the reference store

The store finds a claim by the digest of its code, through an index that the sweep of expired
claims, `Begin` and `Confirm` all keep up. `Store.Indexed` says that the index and the claims
agree, and `Store.claim` is then the claim of a code as a function of the digest.

- `records_cleanup`, `byDigest_cleanup`: what the sweep leaves of a claim and of its index entry.
- `Store.Effect`, `effect_serve`: everything that a call can do to the store.
- `Effect.indexed`: every call keeps the index.
-/

namespace XiaozhiPlatform.DeviceClaim

open GoLib Auth

/-! ## Identifiers -/

variable {taken : String → Bool}

theorem drawCanonicalID_ok {size attempts : ℕ} {random : List UInt8}
    {value : String} (h : drawCanonicalID size taken attempts random = .ok value) :
    taken value = false ∧ Base64.Canonical value size := by
  induction attempts generalizing random with
  | zero => simp [drawCanonicalID] at h
  | succ attempts ih =>
    rw [drawCanonicalID, bind_eq_ok] at h
    obtain ⟨⟨raw, rest⟩, hread, hnext⟩ := h
    have hlength : raw.length = size := by grind [readFull]
    simp only at hnext
    split at hnext
    · exact ih hnext
    next hfree => grind [Except.ok.inj, Base64.canonical_encodeToString]

theorem newCanonicalID_ok {size : ℕ} {random : List UInt8}
    {value : String} (h : newCanonicalID size taken random = .ok value) :
    taken value = false ∧ Base64.Canonical value size := drawCanonicalID_ok h

theorem newCanonicalID_of_fresh {size : ℕ} {bytes : List UInt8}
    (hlength : bytes.length = size) (hfree : taken (Base64.encodeToString bytes) = false) :
    newCanonicalID size taken bytes = .ok (Base64.encodeToString bytes) := by
  grind [newCanonicalID, drawCanonicalID, readFull, ok_bind, List.take_length]

variable {record : StoredRecord}

namespace Store

variable {store : Store} {now : Time} {random : List UInt8}

/-- The ownership that `Confirm` creates: the first attempt at its identifier that is not in use,
and the revision that follows the last one. -/
theorem newOwner_eq_ok {last : Option OwnershipEntry} {entry :
    OwnershipEntry} : store.newOwner record last random = .ok entry ↔ ∃ bindingID,
    store.newBindingID random = .ok bindingID ∧ (∀ owner ∈ last, owner.bindingRevision <
    maximumBindingRevision) ∧ ⟨⟨record.userID, record.tenantID, bindingID, nextRevision last⟩, true⟩
    = entry := by
  have hroom : (¬ ∃ owner ∈ last, maximumBindingRevision ≤ owner.bindingRevision) ↔
      ∀ owner ∈ last, owner.bindingRevision < maximumBindingRevision := by
    simp only [not_exists, not_and, UInt64.not_le]
  simp only [newOwner, bind_eq_ok, mapError_eq_ok, failIf_eq_ok, hroom, pure, Except.pure,
    Except.ok.injEq, exists_const]

/-! ## The sweep -/

/-- What the sweep leaves of a claim. -/
def swept (now : Time) (ttl : ℤ) (record : StoredRecord) : Option StoredRecord :=
  if ¬ now < record.expiresAt + ttl then none
  else if ¬ now < record.expiresAt then some { record with status := .expired }
  else some record

@[simp]
theorem owners_cleanup : (store.cleanup now).owners = store.owners :=
  Map.foldl_same (cleanupRecord now) owners (fun _ => True) (fun _ _ _ _ => rfl) trivial

@[simp]
theorem ttl_cleanup : (store.cleanup now).ttl = store.ttl :=
  Map.foldl_same (cleanupRecord now) ttl (fun _ => True) (fun _ _ _ _ => rfl) trivial

@[simp]
theorem maxRecords_cleanup : (store.cleanup now).maxRecords = store.maxRecords :=
  Map.foldl_same (cleanupRecord now) maxRecords (fun _ => True) (fun _ _ _ _ => rfl) trivial

theorem appNonces_cleanup :
    (store.cleanup now).appNonces = store.appNonces.filter fun _ expires => now < expires :=
  Map.foldl_same (cleanupRecord now) appNonces (fun _ => True) (fun _ _ _ _ => rfl) trivial

/-- The sweep drops a claim one lifetime after it expired and marks it as expired before. -/
theorem records_cleanup (id : String) :
    (store.cleanup now).records[id]? = store.records[id]?.bind (swept now store.ttl) := by
  -- The turn of another claim leaves this one and the lifetime alone.
  have hloop := Map.foldl_entry (m := store.records) (k := id) (cleanupRecord now)
    (fun s => (s.ttl, s.records[id]?)) (fun _ => True)
    (fun record c => (c.1, if ¬ now < record.expiresAt + c.1 then none
      else if ¬ now < record.expiresAt then some { record with status := .expired } else c.2))
    (fun s a record ha _ => ?_) (fun s record _ => ?_) (fun _ _ _ => trivial)
    (s := store.cleanupNonces now) trivial
  · have hrecords := congrArg Prod.snd hloop
    change (store.cleanup now).records[id]? = _ at hrecords
    rw [hrecords, show (store.cleanupNonces now).records = store.records from rfl]
    cases store.records[id]? <;> rfl
  · grind [cleanupRecord]
  · grind [cleanupRecord]

/-- The sweep drops the index entry of a claim that has expired. -/
theorem byDigest_cleanup (digest : Digest) :
    (store.cleanup now).byDigest[digest]? = store.byDigest[digest]?.filter fun id =>
      ¬ ∃ record ∈ store.records[id]?, record.digest = digest ∧ ¬ now < record.expiresAt := by
  have hstart : (store.cleanupNonces now).byDigest = store.byDigest := rfl
  cases hentry : store.byDigest[digest]? with
  | none =>
    refine (Map.foldl_same (cleanupRecord now) (fun s => s.byDigest[digest]?) (· = none)
      (fun s a record hnone => ?_) (s := store.cleanupNonces now) hentry).trans hentry
    simp only [cleanupRecord]
    split
    next h => rw [Map.getElem?_erase, hnone, ite_self]
    next h => rfl
  | some id =>
    -- Only the turn of the claim that the entry names can drop the entry.
    refine (Map.foldl_entry (k := id) (cleanupRecord now) (fun s => s.byDigest[digest]?)
      (fun c => c = some id ∨ c = none)
      (fun record c => if record.digest = digest ∧ ¬ now < record.expiresAt then none else c)
      (fun s a record ha hP => ?_) (fun s record hP => ?_) (fun record c hP => ?_)
      (s := store.cleanupNonces now) (Or.inl hentry)).trans ?_
    · grind [cleanupRecord]
    · simp only [cleanupRecord]
      by_cases hdigest : record.digest = digest
      · grind
      · grind
    · grind
    · grind

/-! ## The index of the claims -/

/-- The index by digest names the claims that are not marked as expired, and only those. -/
structure Indexed (store : Store) : Prop where
  ttl_pos : 0 < store.ttl
  requestID : ∀ (id : String) (record : StoredRecord), store.records[id]? = some record →
    record.requestID = id
  entry : ∀ (digest : Digest) (id : String), store.byDigest[digest]? = some id →
    ∃ record : StoredRecord, store.records[id]? = some record ∧ record.digest = digest ∧
      record.status ≠ .expired
  complete : ∀ (id : String) (record : StoredRecord), store.records[id]? = some record →
    record.status ≠ .expired → store.byDigest[record.digest]? = some id

theorem swept_of_lt {ttl : ℤ} (httl : 0 < ttl)
    (h : now < record.expiresAt) : swept now ttl record = some record := by
  have hlater : now < record.expiresAt + ttl := by linarith
  rw [swept, if_neg (not_not.mpr hlater), if_neg (not_not.mpr h)]

theorem swept_eq_some {ttl : ℤ} {record' : StoredRecord} (h : swept now ttl record = some record') :
    record' = { record with status := record'.status } ∧
      (record'.status ≠ .expired → record' = record ∧ now < record.expiresAt) := by
  rw [swept] at h
  split at h
  · simp at h
  · split at h
    next hexpired => grind
    next hlive =>
      obtain rfl := Option.some.inj h
      exact ⟨rfl, fun _ => ⟨rfl, not_not.mp hlive⟩⟩

namespace Indexed

/-- The claim of a code that is found after a sweep has not expired. -/
theorem byDigest_cleanup (h : store.Indexed) (digest : Digest) :
    (store.cleanup now).byDigest[digest]? = store.byDigest[digest]?.filter fun id =>
      store.records[id]?.any fun record => now < record.expiresAt := by
  rw [Store.byDigest_cleanup]
  cases hentry : store.byDigest[digest]? with
  | none => rfl
  | some id =>
    obtain ⟨record, hrecord, hdigest, -⟩ := h.entry digest id hentry
    simp [Option.filter_some, hrecord, hdigest]

theorem cleanup (h : store.Indexed) (now : Time) : (store.cleanup now).Indexed where
  ttl_pos := by
    rw [ttl_cleanup]
    exact h.ttl_pos
  requestID id record hrecord := by
    rw [records_cleanup, Option.bind_eq_some_iff] at hrecord
    obtain ⟨before, hbefore, hswept⟩ := hrecord
    rw [(swept_eq_some hswept).1]
    exact h.requestID id before hbefore
  entry digest id hentry := by
    rw [h.byDigest_cleanup, Option.filter_eq_some_iff] at hentry
    obtain ⟨hbefore, hlive⟩ := hentry
    obtain ⟨record, hrecord, hdigest, hstatus⟩ := h.entry digest id hbefore
    have hlt : now < record.expiresAt := by simpa [hrecord] using hlive
    refine ⟨record, ?_, hdigest, hstatus⟩
    rw [records_cleanup, hrecord, Option.bind_some, swept_of_lt h.ttl_pos hlt]
  complete id record hrecord hstatus := by
    rw [records_cleanup, Option.bind_eq_some_iff] at hrecord
    obtain ⟨before, hbefore, hswept⟩ := hrecord
    obtain ⟨rfl, hlt⟩ := (swept_eq_some hswept).2 hstatus
    rw [h.byDigest_cleanup, Option.filter_eq_some_iff]
    exact ⟨h.complete id record hbefore hstatus, by simpa [hbefore] using hlt⟩

theorem claim_cleanup (h : store.Indexed) (now : Time) (digest : Digest) :
    (store.cleanup now).claim digest = (store.claim digest).filter (now < ·.expiresAt) := by
  rw [claim, claim, h.byDigest_cleanup]
  cases hentry : store.byDigest[digest]? with
  | none => rfl
  | some id =>
    obtain ⟨record, hrecord, -⟩ := h.entry digest id hentry
    by_cases hlt : now < record.expiresAt
    · simp [Option.filter_some, hrecord, hlt, records_cleanup, swept_of_lt h.ttl_pos hlt]
    · simp [Option.filter_some, hrecord, hlt]

theorem claim_eq_some (h : store.Indexed) {digest : Digest} :
    store.claim digest = some record ↔ store.records[record.requestID]? = some record ∧
      record.digest = digest ∧ record.status ≠ .expired := by
  rw [claim, Option.bind_eq_some_iff]
  constructor
  · rintro ⟨id, hentry, hrecord⟩
    obtain ⟨other, hother, hdigest, hstatus⟩ := h.entry digest id hentry
    obtain rfl := Option.some.inj (hrecord.symm.trans hother)
    rw [h.requestID id record hrecord]
    exact ⟨hrecord, hdigest, hstatus⟩
  · rintro ⟨hrecord, rfl, hstatus⟩
    exact ⟨record.requestID, h.complete _ record hrecord hstatus, hrecord⟩

theorem congr {next : Store} (h : store.Indexed) (httl : next.ttl = store.ttl) (hrecords :
    next.records = store.records) (hindex : next.byDigest = store.byDigest) : next.Indexed := by
  obtain ⟨hpos, hid, hentry, hcomplete⟩ := h
  constructor <;> simp only [httl, hrecords, hindex] <;> assumption

theorem useNonce (h : store.Indexed) (key : String) (now : Time) : (store.useNonce key now).Indexed :=
  h.congr rfl rfl rfl

theorem addClaim (h : store.Indexed) (hid : store.records[record.requestID]? = none)
    (hdigest : store.byDigest[record.digest]? = none) (hstatus : record.status ≠ .expired) :
    (store.addClaim record).Indexed where
  ttl_pos := h.ttl_pos
  requestID id other hother := by
    simp only [Store.addClaim, Map.getElem?_insert] at hother
    split at hother
    next heq => rw [← heq, ← Option.some.inj hother]
    next hne => exact h.requestID id other hother
  entry digest id hentry := by
    simp only [Store.addClaim, Map.getElem?_insert] at hentry ⊢
    split at hentry
    next heq => grind
    next hne =>
      obtain ⟨other, hother, hrest⟩ := h.entry digest id hentry
      refine ⟨other, ?_, hrest⟩
      rw [if_neg (fun heq => by simp [heq, hother] at hid), hother]
  complete id other hother hnot := by
    simp only [Store.addClaim, Map.getElem?_insert] at hother ⊢
    split at hother
    next heq => grind
    next hne =>
      have hindex := h.complete id other hother hnot
      rw [if_neg (fun heq => by simp [heq, hindex] at hdigest), hindex]

theorem claim_addClaim (h : store.Indexed) (hid :
    store.records[record.requestID]? = none) (digest : Digest) : (store.addClaim record).claim
    digest = if record.digest = digest then some record else store.claim digest := by
  simp only [claim, Store.addClaim, Map.getElem?_insert]
  split
  · simp
  · cases hentry : store.byDigest[digest]? with
    | none => rfl
    | some id =>
      obtain ⟨other, hother, -⟩ := h.entry digest id hentry
      have hne : record.requestID ≠ id := fun heq => by simp [heq, hother] at hid
      simp [hne]

variable {id : String} {digest : Digest} {record : StoredRecord}

theorem markBound (h : store.Indexed) (hentry : store.byDigest[digest]? = some id)
    (hrecord : store.records[id]? = some record) : (store.markBound id record).Indexed where
  ttl_pos := h.ttl_pos
  requestID other claim hclaim := by
    simp only [Store.markBound, Map.getElem?_insert] at hclaim
    split at hclaim
    next heq =>
      obtain rfl := Option.some.inj hclaim
      exact (h.requestID id record hrecord).trans heq
    next hne => exact h.requestID other claim hclaim
  entry digest' other hother := by
    obtain ⟨claim, hclaim, hrest⟩ := h.entry digest' other hother
    simp only [Store.markBound, Map.getElem?_insert]
    split
    next heq => grind
    next hne => exact ⟨claim, hclaim, hrest⟩
  complete other claim hclaim hnot := by
    simp only [Store.markBound, Map.getElem?_insert] at hclaim
    split at hclaim
    next heq =>
      obtain rfl := Option.some.inj hclaim
      obtain ⟨named, hnamed, hdigest, -⟩ := h.entry digest id hentry
      obtain rfl := Option.some.inj (hrecord.symm.trans hnamed)
      rw [← heq, hdigest]
      exact hentry
    next hne => exact h.complete other claim hclaim hnot

theorem claim_markBound (h : store.Indexed) (hentry : store.byDigest[digest]? = some id)
    (other : Digest) :
    (store.markBound id record).claim other =
      if digest = other then some { record with status := .bound } else store.claim other := by
  simp only [claim, Store.markBound]
  split
  next heq => grind
  next hne =>
    cases hother : store.byDigest[other]? with
    | none => rfl
    | some otherID =>
      -- Two codes do not share a claim, so the claim of the other code is not touched.
      have hid : id ≠ otherID := by
        rintro rfl
        obtain ⟨claim, hclaim, hdigest, -⟩ := h.entry digest id hentry
        obtain ⟨claim', hclaim', hdigest', -⟩ := h.entry other id hother
        obtain rfl := Option.some.inj (hclaim.symm.trans hclaim')
        exact hne (hdigest.symm.trans hdigest')
      simp [Map.getElem?_insert, hid]

end Indexed

/-! ## Calls -/

/-- Everything that a call can do to the store. -/
inductive Effect (store : Store) : Call → Store → Prop
  | same (call : Call) : Effect store call store
  | swept (call : Call) (now : Time) : Effect store call (store.cleanup now)
  | nonce (call : Call) (key : String) (now : Time) :
      Effect store call ((store.cleanup now).useNonce key now)
  | registered {userID tenantID deviceID code appNonce : String} {now : Time} (key : String)
      (record : StoredRecord) (hstatus : record.status = .pending)
      (hdigest : record.digest = claimDigest code)
      (hfresh : (store.cleanup now).byDigest[record.digest]? = none)
      (hid : (store.cleanup now).records[record.requestID]? = none) :
      Effect store (.begin userID tenantID deviceID code appNonce now)
        (((store.cleanup now).useNonce key now).addClaim record)
  | confirmed {deviceID code id : String} {now : Time} {record : StoredRecord}
      {random : List UInt8} {owners : Std.ExtTreeMap String OwnershipEntry}
      (hentry : (store.cleanup now).byDigest[claimDigest code]? = some id)
      (hrecord : (store.cleanup now).records[id]? = some record)
      (hdevice : record.deviceID = deviceID) (hlive : now < record.expiresAt)
      (howners : (store.cleanup now).bindOwner deviceID record random = .ok owners) :
      Effect store (.confirm deviceID code now)
        { (store.cleanup now).markBound id record with owners := owners }
  | released {userID tenantID deviceID : String} {now : Time} {entry : OwnershipEntry}
      (hentry : store.owners[deviceID]? = some entry) (hactive : entry.active = true)
      (hroom : entry.bindingRevision < maximumBindingRevision) :
      Effect store (.release userID tenantID deviceID now)
        { store with
          owners := store.owners.insert deviceID
            { entry with bindingRevision := entry.bindingRevision + 1, active := false } }

section Effects

variable (store : Store) (userID tenantID deviceID code : String) (now : Time) (random : List UInt8)

theorem effect_begin (appNonce : String) : store.Effect (.begin userID tenantID deviceID code
    appNonce now) (store.begin userID tenantID deviceID code appNonce now random).1 := by
  rw [begin]
  split
  · exact .same _
  simp only
  split
  · exact .swept _ now
  split
  · exact .swept _ now
  rw [register]
  split
  · exact .nonce _ _ now
  next hdigest =>
    split
    · exact .nonce _ _ now
    split
    · exact .nonce _ _ now
    split
    · exact .nonce _ _ now
    next requestID hnew =>
      exact .registered _ _ rfl rfl hdigest
        (Std.ExtTreeMap.getElem?_eq_none_of_contains_eq_false
          (newCanonicalID_ok ((mapError_eq_ok _ _ _).mp hnew)).1)

theorem effect_confirm :
    store.Effect (.confirm deviceID code now) (store.confirm deviceID code now random).1 := by
  rw [confirm]
  split
  · exact .same _
  simp only
  split
  · exact .swept _ now
  next id hentry =>
    split
    · exact .swept _ now
    next record hrecord =>
      split
      · exact .swept _ now
      next hdevice =>
        split
        · exact .swept _ now
        next hlive =>
          split
          · exact .swept _ now
          split
          · exact .swept _ now
          next owners howners =>
            exact .confirmed hentry hrecord (not_not.mp hdevice) (not_not.mp hlive) howners

theorem effect_lookup (requestID : String) : store.Effect (.lookup userID tenantID requestID now)
    (store.lookup userID tenantID requestID now).1 := by
  rw [lookup]
  split
  · exact .same _
  · exact .swept _ now

theorem effect_release : store.Effect (.release userID tenantID deviceID now) (store.release userID
    tenantID deviceID now).1 := by
  rw [release]
  split
  · exact .same _
  split
  · exact .same _
  next entry hentry =>
    split
    · exact .same _
    split
    · exact .same _
    next hactive =>
      split
      · exact .same _
      next hroom => exact .released hentry (not_not.mp hactive) (UInt64.not_le.mp hroom)

theorem effect_serve (input : Call × List UInt8) : store.Effect input.1 (store.serve input).1 := by
  obtain ⟨call, random⟩ := input
  cases call with
  | begin userID tenantID deviceID code appNonce now => exact effect_begin ..
  | confirm deviceID code now => exact effect_confirm ..
  | lookup userID tenantID requestID now => exact effect_lookup ..
  | owner | owners => exact .same _
  | release userID tenantID deviceID now => exact effect_release ..

end Effects

/-- Every call keeps the index of the claims. -/
theorem Effect.indexed {call : Call} {next : Store} (heffect : store.Effect call next)
    (h : store.Indexed) : next.Indexed := by
  cases heffect with
  | same => exact h
  | swept _ now => exact h.cleanup now
  | nonce _ key now => exact (h.cleanup now).useNonce key now
  | registered key record hstatus _ hfresh hid =>
    exact ((h.cleanup _).useNonce key _).addClaim hid hfresh (by simp [hstatus])
  | confirmed hentry hrecord =>
    exact ((h.cleanup _).markBound hentry hrecord).congr rfl rfl rfl
  | released => exact h.congr rfl rfl rfl

theorem indexed_newStore {ttl maxRecords : ℤ} (h : newStore ttl maxRecords = .ok store) :
    store.Indexed := by
  simp only [newStore, failIf_bind_eq_ok, not_or, not_lt] at h
  obtain ⟨⟨hmin, -⟩, hstore⟩ := h
  obtain rfl := Except.ok.inj hstore
  refine ⟨lt_of_lt_of_le (by decide) hmin, ?_, ?_, ?_⟩ <;> simp

/-! ## The calls in terms of the claims -/

variable {userID tenantID deviceID code appNonce : String} {digest : Digest}

theorem claim_eq_none (h : store.Indexed) :
    store.claim digest = none ↔ store.byDigest[digest]? = none := by
  rw [claim, Option.bind_eq_none_iff]
  constructor
  · intro hnone
    by_contra hsome
    obtain ⟨id, hid⟩ := Option.ne_none_iff_exists'.mp hsome
    obtain ⟨record, hrecord, -⟩ := h.entry digest id hid
    simpa [hrecord] using hnone id hid
  · intro hnone id hid
    simp [hnone] at hid

theorem byDigest_of_claim (h : store.Indexed) (hclaim : store.claim digest =
    some record) : store.byDigest[digest]? = some record.requestID ∧
    store.records[record.requestID]? = some record := by
  obtain ⟨hrecord, rfl, hstatus⟩ := h.claim_eq_some.mp hclaim
  exact ⟨h.complete _ record hrecord hstatus, hrecord⟩

theorem register_of_claim (h : store.Indexed) (hclaim : store.claim digest = some existing)
    (hlive : now < existing.expiresAt) :
    store.register userID tenantID deviceID digest now random =
      (store, if existing.userID ≠ userID ∨ existing.tenantID ≠ tenantID ∨
        existing.deviceID ≠ deviceID then .error errConflict else .ok (publicRecord existing now)) := by
  obtain ⟨hentry, hrecord⟩ := byDigest_of_claim h hclaim
  rw [register]
  simp only [hentry, hrecord, not_not.mpr hlive, or_false]

end Store

end XiaozhiPlatform.DeviceClaim
