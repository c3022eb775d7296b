import XiaozhiPlatform.DeviceClaim.Postgres

/-!
# When the ownership transactions succeed

A statement fails only on a constraint of its table. With arguments that passed the checks of the
store and identifiers that no row has, every statement of `Begin`, `Confirm` and `Release` succeeds,
and the selects after it are those before it with one row changed. `Database.Events` is what the
event log has to satisfy for that: its key is the device with the revision, so a revision must not
be logged before it is reached.

- `exists_acceptNonce`, `exists_beginClaim`: the transaction of `Begin`.
- `exists_confirmClaim`, `exists_releaseOwner`: the transactions of `Confirm` and `Release`.
-/

namespace XiaozhiPlatform.DeviceClaim

open GoLib Auth Sql

variable {last : Option OwnershipEntry}

namespace Database

/-- The nonce of an application. -/
def selectNonce (db : Database) (key : String × String × String) : Option NonceRow :=
  db.nonces.select (byKey NonceRow.key key)

/-- The log holds only revisions that their device has reached. -/
def Events (db : Database) : Prop :=
  ∀ event ∈ db.events.rows, ∃ owner ∈ db.selectOwner event.deviceID,
    event.bindingRevision ≤ owner.bindingRevision

/-- The device is active for another owner. -/
abbrev OwnedByOther (db : Database) (deviceID userID tenantID : String) : Prop :=
  ∃ owner ∈ db.selectOwner deviceID, owner.active = true ∧
    (owner.ownerID ≠ userID ∨ owner.tenantID ≠ tenantID)

variable {db : Database} {userID tenantID deviceID appNonce requestID eventID bindingID : String}
  {digest : Digest} {now : Time}

/-! ## Nonces and claims -/

theorem acceptNonce_eq_none
    (hrow : db.selectNonce (tenantID, userID, appNonce) = some row) (hlive : now < row.expiresAt) :
    db.acceptNonce tenantID userID appNonce expiresAt now = .ok none := by
  simp only [acceptNonce]
  split
  next hnone => exact absurd (hrow.symm.trans hnone) (by simp)
  next existing hsome =>
    obtain rfl := Option.some.inj (hrow.symm.trans hsome)
    rw [if_neg (not_le.mpr hlive)]
    rfl

/-- A nonce that is new or has expired is accepted and is then in use. -/
theorem exists_acceptNonce (db : Database) (expiresAt now : Time) (htenant : ValidIdentifier
    tenantID 128) (huser : ValidIdentifier userID 128) (htoken : IsToken appNonce = true) (hfree : ∀
    row ∈ db.selectNonce (tenantID, userID, appNonce), row.expiresAt ≤ now) : ∃ next, db.acceptNonce
    tenantID userID appNonce expiresAt now = .ok (some next) ∧ ∀ key, next.selectNonce key = if
    (tenantID, userID, appNonce) = key then some ⟨tenantID, userID, appNonce, timestamptz expiresAt⟩
    else db.selectNonce key := by
  cases hselect : db.selectNonce (tenantID, userID, appNonce) with
  | none =>
    have hnone : db.nonces.select (byKey NonceRow.key (tenantID, userID, appNonce)) = none :=
      hselect
    obtain ⟨nonces, hinsert, hrows⟩ :=
      Table.exists_insert db.nonces ⟨tenantID, userID, appNonce, timestamptz expiresAt⟩
        (checked_nonce.mpr ⟨htenant, huser, htoken⟩)
        (fun other hother => distinct_nonces.mpr (find?_key_eq_none.mp hnone other hother))
    refine ⟨{ db with nonces }, ?_, fun key => Table.select_insert hrows hnone⟩
    simp only [acceptNonce, NonceRow.key, hnone, hinsert]
    rfl
  | some row =>
    have hsome : db.nonces.select (byKey NonceRow.key (tenantID, userID, appNonce)) = some row :=
      hselect
    have hexpired : row.expiresAt ≤ now := hfree row hselect
    obtain ⟨nonces, hupdate, hrows⟩ :=
      Table.exists_update db.nonces (byKey NonceRow.key (tenantID, userID, appNonce))
        (fun old => { old with expiresAt := timestamptz expiresAt })
        (fun old hold _ => by
          have hchecked := checked_nonce.mp (db.nonces.checked old hold)
          exact checked_nonce.mpr hchecked)
        (Table.pairwise_update "ownership_app_nonces_pkey" (by simp [noncesSchema])
          (fun a _ b _ hab _ _ => by
            rw [distinct_nonces] at hab ⊢
            exact hab)
          (fun a _ b _ hab _ _ => by
            rw [distinct_nonces] at hab ⊢
            exact hab))
    refine ⟨{ db with nonces }, ?_, fun key => ?_⟩
    · simp only [acceptNonce, NonceRow.key, hsome, hexpired, if_true]
      rw [hupdate]
      rfl
    · have hkey : row.key = (tenantID, userID, appNonce) := key_of_find? hsome
      rw [selectNonce, Table.select_update_key hrows fun _ => rfl]
      split
      next heq => grind [NonceRow.key]
      next => rfl

theorem exists_insertClaim (db : Database) (hchecked : claimsSchema.Checked row)
    (hrequest : ∀ other ∈ db.claims.rows, other.requestID ≠ row.requestID)
    (hdigest : db.selectClaimByDigest row.claimDigest = none) :
    ∃ next, db.insertClaim row = .ok next ∧ next.nonces = db.nonces := by
  obtain ⟨claims, hinsert, -⟩ := Table.exists_insert db.claims row hchecked
    fun other hother => distinct_claims.mpr
      ⟨hrequest other hother, find?_key_eq_none.mp hdigest other hother⟩
  refine ⟨{ db with claims }, ?_, rfl⟩
  rw [insertClaim, hinsert]
  rfl

theorem exists_updateClaimBound (db : Database) (requestID : String) :
    ∃ next, db.updateClaimBound requestID = .ok next ∧ next.nonces = db.nonces := by
  have hdistinct : ∀ {a b : ClaimRow}, claimsSchema.Distinct a b →
      claimsSchema.Distinct { a with status := .bound } b ∧
        claimsSchema.Distinct a { b with status := .bound } := by grind [distinct_claims]
  obtain ⟨claims, hupdate, -⟩ := Table.exists_update db.claims
    (byKey ClaimRow.requestID requestID) (fun row => { row with status := .bound })
    (fun row hrow _ => by
      obtain ⟨hid, htenant, howner, hdevice, -, hcreated⟩ :=
        checked_claim.mp (db.claims.checked row hrow)
      exact checked_claim.mpr ⟨hid, htenant, howner, hdevice, .inr rfl, hcreated⟩)
    (Table.pairwise_update "ownership_claims_pkey" (by simp [claimsSchema])
      (fun _ _ _ _ hab _ _ => (hdistinct hab).1) (fun _ _ _ _ hab _ _ => (hdistinct hab).2))
  refine ⟨{ db with claims }, ?_, rfl⟩
  rw [updateClaimBound, hupdate]
  rfl

/-! ## Owners and events -/

theorem selectOwner_eq_some : db.selectOwner deviceID = some owner ↔ ∃ row
    ∈ db.owners.rows, row.deviceID = deviceID ∧ row.entry = owner := by
  rw [selectOwner, Option.map_eq_some_iff]
  simp only [show ∀ row, db.owners.select (byKey OwnerRow.deviceID deviceID) = some row ↔
    row ∈ db.owners.rows ∧ row.deviceID = deviceID from
      fun row => find?_key_iff db.nodup_deviceID, and_assoc]

theorem exists_insertOwner (hchecked : ownersSchema.Checked row) (hdevice :
    db.selectOwner row.deviceID = none) (hbinding : ∀ other ∈ db.owners.rows, other.bindingID ≠
    row.bindingID) : ∃ next, db.insertOwner row = .ok next ∧ next.nonces = db.nonces := by
  have hnone := find?_key_eq_none.mp (Option.map_eq_none_iff.mp hdevice)
  obtain ⟨owners, hinsert, -⟩ := Table.exists_insert db.owners row hchecked
    fun other hother => distinct_owners.mpr ⟨hnone other hother, hbinding other hother⟩
  refine ⟨{ db with owners }, ?_, rfl⟩
  rw [insertOwner, hinsert]
  rfl

theorem exists_updateOwner (db : Database) (deviceID : String) (f : OwnerRow → OwnerRow) (hf : ∀
    row, (f row).deviceID = row.deviceID) (hchecked : ∀ row ∈ db.owners.rows, row.deviceID =
    deviceID → ownersSchema.Checked (f row)) (hbinding : ∀ row ∈ db.owners.rows, row.deviceID =
    deviceID → ∀ other ∈ db.owners.rows, other.deviceID ≠ deviceID → (f row).bindingID ≠
    other.bindingID) : ∃ next, db.updateOwner deviceID f = .ok next ∧ next.nonces = db.nonces := by
  obtain ⟨owners, hupdate, -⟩ := Table.exists_update db.owners
    (byKey OwnerRow.deviceID deviceID) f
    (fun row hrow hkey => hchecked row hrow (byKey_iff.mp hkey))
    (Table.pairwise_update "device_owners_pkey" (by simp [ownersSchema])
      (fun a ha b hb hab hka hkb => distinct_owners.mpr
        ⟨(hf a).trans_ne (distinct_owners.mp hab).1, hbinding a ha hka b hb hkb⟩)
      (fun a ha b hb hab hka hkb => distinct_owners.mpr
        ⟨(distinct_owners.mp hab).1.trans_eq (hf b).symm, (hbinding b hb hkb a ha hka).symm⟩))
  refine ⟨{ db with owners }, ?_, rfl⟩
  rw [updateOwner, hupdate]
  rfl

theorem exists_insertEvent (db : Database) (row : EventRow) (hchecked : eventsSchema.Checked row)
    (hid : ∀ other ∈ db.events.rows, other.eventID ≠ row.eventID) (hrevision : ∀ other ∈
    db.events.rows, other.deviceID = row.deviceID → other.bindingRevision ≠ row.bindingRevision)
    (howner : db.selectOwner row.deviceID ≠ none) : ∃ next, db.insertEvent row = .ok next ∧
    next.nonces = db.nonces := by
  obtain ⟨events, hinsert, -⟩ := Table.exists_insert db.events row hchecked
    fun other hother => distinct_events.mpr ⟨hid other hother, hrevision other hother⟩
  refine ⟨{ db with events }, ?_, rfl⟩
  rw [insertEvent, hinsert, ok_bind, failIf_bind_eq_ok]
  refine ⟨fun hnone => howner ?_, rfl⟩
  rw [selectOwner, Option.isNone_iff_eq_none.mp hnone]
  rfl

theorem revision_nextRevision_valid
    (hroom : ∀ owner ∈ last, owner.bindingRevision < maximumBindingRevision) :
    1 ≤ nextRevision last ∧ nextRevision last ≤ 4294967295 := by
  cases last with
  | none => decide
  | some owner =>
    have hlt := hroom owner rfl
    rw [UInt64.lt_iff_toNat_lt] at hlt
    have hmax : maximumBindingRevision.toNat = 4294967295 := rfl
    have hnext : (owner.bindingRevision + 1).toNat = owner.bindingRevision.toNat + 1 :=
      toNat_add_one_of_lt (hroom owner rfl)
    simp only [nextRevision, UInt64.le_iff_toNat_le, hnext]
    have hone : (1 : UInt64).toNat = 1 := rfl
    have hbound : (4294967295 : UInt64).toNat = 4294967295 := rfl
    omega

/-! ## Transactions -/

section Begin

variable {ttl maxRecords : ℤ} {used : Database}

theorem acceptNonce_selectClaimByDigest
    (hnonce : db.acceptNonce tenantID userID appNonce expiresAt now = .ok (some used)) :
    used.selectClaimByDigest digest = db.selectClaimByDigest digest := by
  rw [selectClaimByDigest, (acceptNonce_ok hnonce).1, ← selectClaimByDigest]

theorem beginClaim_existing (hnonce : db.acceptNonce tenantID userID appNonce (now
    + ttl) now = .ok (some used)) (hclaim : db.selectClaimByDigest digest = some row) :
    db.beginClaim ttl maxRecords userID tenantID deviceID appNonce requestID digest now = if
    row.ownerID ≠ userID ∨ row.tenantID ≠ tenantID ∨ row.deviceID ≠ deviceID ∨ ¬ now < row.expiresAt
    then .error errConflict else .ok (row.record, used) := by
  rw [beginClaim, hnonce, ok_bind]
  simp only [acceptNonce_selectClaimByDigest hnonce, hclaim, failIf]
  split <;> rfl

end Begin

/-- A claim under a code and a request that no row has is inserted. -/
theorem exists_beginClaim {ttl maxRecords : ℤ} {used : Database} (hnonce : db.acceptNonce tenantID
    userID appNonce (now + ttl) now = .ok (some used)) (hchecked : claimsSchema.Checked ⟨requestID,
    tenantID, userID, deviceID, digest, .pending, timestamptz (now + ttl), timestamptz now⟩)
    (hrequest : ∀ row ∈ db.claims.rows, row.requestID ≠ requestID) (hdigest : db.selectClaimByDigest
    digest = none) (howner : ¬ db.OwnedByOther deviceID userID tenantID) (hcapacity : ¬ maxRecords ≤
    db.claims.count fun row => now < row.expiresAt) : ∃ next, db.beginClaim ttl maxRecords userID
    tenantID deviceID appNonce requestID digest now = .ok (⟨requestID, deviceID, .pending, now +
    ttl⟩, next) ∧ next.nonces = used.nonces ∧ next.owners = db.owners ∧ next.events = db.events ∧
    next.claims.rows = db.claims.rows ++ [⟨requestID, tenantID, userID, deviceID, digest, .pending,
    timestamptz (now + ttl), timestamptz now⟩] := by
  obtain ⟨hclaims, howners, hevents⟩ := acceptNonce_ok hnonce
  have hselect : used.selectClaimByDigest digest = none :=
    (acceptNonce_selectClaimByDigest hnonce).trans hdigest
  obtain ⟨next, hinsert, hnonces⟩ := exists_insertClaim used hchecked
    (by rw [hclaims]; exact hrequest) hselect
  obtain ⟨hrows, howners', hevents'⟩ := insertClaim_ok hinsert
  refine ⟨next, ?_, hnonces, howners'.trans howners, hevents'.trans hevents, hclaims ▸ hrows⟩
  rw [beginClaim, hnonce, ok_bind]
  simp only [hselect]
  rw [failIf_bind_eq_ok, failIf_bind_eq_ok, hinsert, ok_bind, selectOwner, howners, hclaims]
  exact ⟨howner, hcapacity, rfl⟩

theorem exists_writeOwner (now : Time) (hclaim : claim ∈ db.claims.rows) (htoken
    : IsToken bindingID = true) (hfresh : ∀ row ∈ db.owners.rows, row.bindingID ≠ bindingID) (hroom
    : ∀ owner ∈ db.selectOwner claim.deviceID, owner.bindingRevision < maximumBindingRevision) : ∃
    next, db.writeOwner (db.selectOwner claim.deviceID) claim bindingID now = .ok next ∧ next.nonces
    = db.nonces := by
  obtain ⟨-, htenant, howner, hdevice, -⟩ := checked_claim.mp (db.claims.checked claim hclaim)
  have hrevision := revision_nextRevision_valid hroom
  cases hselect : db.selectOwner claim.deviceID with
  | none =>
    rw [hselect] at hrevision
    exact exists_insertOwner
      (checked_owner.mpr ⟨hdevice, htenant, howner, htoken, hrevision⟩) hselect hfresh
  | some owner =>
    rw [hselect] at hrevision
    simp only [writeOwner]
    split
    · refine exists_updateOwner _ _ _ (by simp) (fun row hrow _ => ?_) fun _ _ _ other hother _ =>
        (hfresh other hother).symm
      obtain ⟨hrowDevice, -⟩ := checked_owner.mp (db.owners.checked row hrow)
      exact checked_owner.mpr ⟨hrowDevice, htenant, howner, htoken, hrevision⟩
    · exact ⟨db, rfl, rfl⟩

theorem exists_writeBound (db : Database) (claim : ClaimRow) (last : Option OwnershipEntry) (now :
    Time) (hrequest : IsToken claim.requestID = true) (hevent : IsToken eventID = true) (hbinding :
    IsToken bindingID = true) (hid : ∀ event ∈ db.events.rows, event.eventID ≠ eventID) (hrevision :
    1 ≤ nextRevision last ∧ nextRevision last ≤ 4294967295) (hunlogged : last.all (fun owner =>
    !owner.active) = true → ∀ event ∈ db.events.rows, event.deviceID = claim.deviceID →
    event.bindingRevision ≠ nextRevision last) (howner : db.selectOwner claim.deviceID ≠ none) : ∃
    next, db.writeBound last claim eventID bindingID now = .ok next ∧ next.nonces = db.nonces ∧ ∀
    event ∈ next.events.rows, event ∈ db.events.rows ∨ event.eventID = eventID ∧ last.all (fun owner
    => !owner.active) = true ∧ event.deviceID = claim.deviceID ∧ event.bindingRevision =
    nextRevision last := by
  rw [writeBound]
  split
  next =>
    obtain ⟨marked, hmarked, hnonces⟩ := exists_updateClaimBound db claim.requestID
    obtain ⟨-, howners, hevents⟩ := updateClaimBound_ok hmarked
    rw [hmarked, ok_bind]
    split
    next hnew =>
      obtain ⟨next, hnext, hnonces'⟩ := exists_insertEvent marked
        (⟨eventID, .bind, claim.deviceID, claim.tenantID, claim.ownerID, bindingID,
          nextRevision last, some claim.requestID, timestamptz now⟩)
        (checked_event.mpr ⟨hevent, hbinding, hrevision, hrequest⟩)
        (by rw [hevents]; exact hid) (by rw [hevents]; exact hunlogged hnew)
        (by rw [selectOwner, howners]; exact howner)
      refine ⟨next, hnext, hnonces'.trans hnonces, fun event hmem => ?_⟩
      rw [(insertEvent_ok hnext).1, hevents, List.mem_append, List.mem_singleton] at hmem
      rcases hmem with hmem | rfl
      · exact .inl hmem
      · exact .inr ⟨rfl, hnew, rfl, rfl⟩
    next => exact ⟨marked, rfl, hnonces, fun event hmem => .inl (hevents ▸ hmem)⟩
  next => exact ⟨db, rfl, rfl, fun event hmem => .inl hmem⟩

theorem Events.ne_nextRevision (hevents : db.Events) (hlast :
    db.selectOwner deviceID = last) (hroom : ∀ owner ∈ last, owner.bindingRevision <
    maximumBindingRevision) (hevent : event ∈ db.events.rows) (hdevice :
    event.deviceID = deviceID) : event.bindingRevision ≠ nextRevision last := by
  obtain ⟨owner, howner, hle⟩ := hevents event hevent
  rw [hdevice, hlast] at howner
  obtain rfl : last = some owner := howner
  intro heq
  rw [heq, nextRevision, UInt64.le_iff_toNat_le, toNat_add_one_of_lt (hroom owner rfl)] at hle
  omega

/-- The log stays below the revisions when the owner of a device moves on and only its new revision
is logged. -/
theorem Events.step {next : Database} (hevents : db.Events) (deviceID : String) (fresh :
    OwnershipEntry) (howners : ∀ device, next.selectOwner device = if deviceID = device then some
    fresh else db.selectOwner device) (hlater : ∀ owner ∈ db.selectOwner deviceID,
    owner.bindingRevision ≤ fresh.bindingRevision) (hlog : ∀ event ∈ next.events.rows, event ∈
    db.events.rows ∨ event.deviceID = deviceID ∧ event.bindingRevision = fresh.bindingRevision) :
    next.Events := by
  intro event hevent
  rw [howners]
  rcases hlog event hevent with hold | ⟨rfl, hrevision⟩
  · obtain ⟨owner, howner, hle⟩ := hevents event hold
    split
    next heq => grind
    next => exact ⟨owner, howner, hle⟩
  · grind

theorem le_nextRevision (hroom : ∀ owner ∈ last, owner.bindingRevision < maximumBindingRevision) :
    ∀ owner ∈ last, owner.bindingRevision ≤ nextRevision last := by
  rintro owner rfl
  rw [nextRevision, UInt64.le_iff_toNat_le, toNat_add_one_of_lt (hroom owner rfl)]
  omega

/-- `Confirm` of a claim that is alive, for its device and with identifiers that no row has,
succeeds. -/
theorem exists_confirmClaim (eventID bindingID : String) {claim : ClaimRow} (hevents : db.Events)
    (hclaim : db.selectClaimByDigest digest = some claim) (hdevice : claim.deviceID = deviceID)
    (hlive : now < claim.expiresAt)
    (hother : ¬ db.OwnedByOther deviceID claim.ownerID claim.tenantID)
    (hroom : ∀ owner ∈ db.selectOwner deviceID, owner.bindingRevision < maximumBindingRevision)
    (hevent : IsToken eventID = true) (hbinding : IsToken bindingID = true)
    (heventFresh : ∀ event ∈ db.events.rows, event.eventID ≠ eventID)
    (hbindingFresh : ∀ row ∈ db.owners.rows, row.bindingID ≠ bindingID) :
    ∃ next, db.confirmClaim deviceID eventID bindingID digest now =
        .ok ({ claim.record with status := .bound }, next) ∧
      next.nonces = db.nonces ∧ next.Events ∧
      (∀ event ∈ next.events.rows, event ∈ db.events.rows ∨ event.eventID = eventID) ∧
      (∀ other, next.selectClaimByDigest other =
        if digest = other then some { claim with status := .bound }
        else db.selectClaimByDigest other) ∧
      ∀ device, next.selectOwner device =
        if deviceID = device ∧ ¬ ∃ owner ∈ db.selectOwner deviceID, owner.active = true then
          some ⟨⟨claim.ownerID, claim.tenantID, bindingID, nextRevision (db.selectOwner deviceID)⟩,
            true⟩
        else db.selectOwner device := by
  subst hdevice
  have hmem : claim ∈ db.claims.rows := (selectClaimByDigest_eq_some.mp hclaim).1
  obtain ⟨hrequest, -⟩ := checked_claim.mp (db.claims.checked claim hmem)
  -- The statement on the owner.
  obtain ⟨bound, hbound, hnonces⟩ := exists_writeOwner now hmem hbinding hbindingFresh hroom
  obtain ⟨hclaims, hlog, howners⟩ := writeOwner_ok hbound
  have hselect : bound.selectClaimByDigest digest = some claim := by
    rw [selectClaimByDigest, hclaims]
    exact hclaim
  have howned : bound.selectOwner claim.deviceID ≠ none := by grind
  -- The statements on the claim and on the log.
  obtain ⟨next, hnext, hnonces', hevents'⟩ := exists_writeBound bound claim
    (db.selectOwner claim.deviceID) now hrequest hevent hbinding
    (by rw [hlog]; exact heventFresh) (revision_nextRevision_valid hroom)
    (fun _ event hmem hdevice => hevents.ne_nextRevision rfl hroom (hlog ▸ hmem) hdevice) howned
  obtain ⟨howners', hselect'⟩ := writeBound_ok hselect hnext
  have hfinal : ∀ device, next.selectOwner device = bound.selectOwner device := fun device => by
    rw [selectOwner, howners', selectOwner]
  refine ⟨next, ?_, hnonces'.trans hnonces, ?_, fun event hmem => ?_, fun other => ?_,
    fun device => ?_⟩
  · rw [confirmClaim, hclaim]
    simp only [failIf_bind_eq_ok]
    refine ⟨by simp, not_not.mpr hlive, hother, ?_, ?_⟩
    · rintro ⟨owner, howner, hmax⟩
      grind
    · rw [hbound, ok_bind, hnext, ok_bind]
      rfl
  · -- An event is logged only for a device that had no owner in force.
    by_cases hactive : ∃ owner ∈ db.selectOwner claim.deviceID, owner.active = true
    · intro event hmem
      rw [hfinal, howners, if_neg fun h => h.2 hactive]
      rcases hevents' event hmem with hold | ⟨-, hnone, -⟩
      · exact hevents event (hlog ▸ hold)
      · grind [Option.mem_def]
    · refine hevents.step claim.deviceID ⟨⟨claim.ownerID, claim.tenantID, bindingID,
        nextRevision (db.selectOwner claim.deviceID)⟩, true⟩ (fun device => ?_)
        (le_nextRevision hroom) fun event hmem => ?_
      · grind
      · grind
  · grind
  · rw [hselect', selectClaimByDigest, hclaims, selectClaimByDigest]
  · rw [hfinal, howners]

/-- `Release` by the owner of a device below the last revision succeeds. -/
theorem exists_releaseOwner (eventID : String) (now : Time) {owner : OwnershipEntry}
    (hevents : db.Events)
    (hselect : db.selectOwner deviceID = some owner) (hactive : owner.active = true)
    (huser : owner.ownerID = userID) (htenant : owner.tenantID = tenantID)
    (hroom : owner.bindingRevision < maximumBindingRevision) (hevent : IsToken eventID = true)
    (heventFresh : ∀ event ∈ db.events.rows, event.eventID ≠ eventID) :
    ∃ next, db.releaseOwner userID tenantID deviceID eventID now =
        .ok ({ owner.toOwnership with bindingRevision := owner.bindingRevision + 1 }, next) ∧
      next.nonces = db.nonces ∧ next.claims = db.claims ∧ next.Events ∧
      (∀ event ∈ next.events.rows, event ∈ db.events.rows ∨ event.eventID = eventID) ∧
      ∀ device, next.selectOwner device = if deviceID = device then
        some { owner with bindingRevision := owner.bindingRevision + 1, active := false }
        else db.selectOwner device := by
  have hlast : ∀ last ∈ some owner, last.bindingRevision < maximumBindingRevision := by simpa
  have hrevision := revision_nextRevision_valid hlast
  obtain ⟨row, hrow, hdevice, rfl⟩ := selectOwner_eq_some.mp hselect
  obtain ⟨-, -, -, hbinding, -⟩ := checked_owner.mp (db.owners.checked row hrow)
  -- The statement on the owner.
  obtain ⟨released, hreleased, hnonces⟩ := exists_updateOwner db deviceID
    (fun other =>
      { other with bindingRevision := row.entry.bindingRevision + 1, status := .released })
    (fun _ => rfl)
    (fun other hother _ => by
      obtain ⟨hid, hother⟩ := checked_owner.mp (db.owners.checked other hother)
      exact checked_owner.mpr ⟨hid, hother.1, hother.2.1, hother.2.2.1, hrevision⟩)
    (fun a ha hka b hb hkb heq => hkb (by
      rw [← hka, List.inj_on_of_nodup_map
        (Table.nodup_key "device_owners_binding_id_key" (by simp [ownersSchema])) hb ha heq.symm]))
  obtain ⟨hrows, hclaims, hlog⟩ := updateOwner_ok hreleased
  have howners : ∀ device, released.selectOwner device = if deviceID = device then
      some { row.entry with bindingRevision := row.entry.bindingRevision + 1, active := false }
      else db.selectOwner device := fun device => by
    rw [selectOwner_update (by simp) hrows]
    split
    next heq =>
      subst heq
      have hfound : db.owners.select (byKey OwnerRow.deviceID deviceID) = some row :=
        (find?_key_iff db.nodup_deviceID).mpr ⟨hrow, hdevice⟩
      rw [hfound]
      rfl
    next => rfl
  -- The statement on the log.
  obtain ⟨next, hnext, hnonces'⟩ := exists_insertEvent released
    (⟨eventID, .release, deviceID, tenantID, userID, row.entry.bindingID,
      row.entry.bindingRevision + 1, none, timestamptz now⟩)
    (checked_event.mpr ⟨hevent, hbinding, hrevision, rfl⟩) (by rw [hlog]; exact heventFresh)
    (fun event hmem heq => hevents.ne_nextRevision hselect hlast (hlog ▸ hmem) heq)
    (by rw [howners, if_pos rfl]; simp)
  obtain ⟨hevents', hclaims', howners'⟩ := insertEvent_ok hnext
  have hfinal : ∀ device, next.selectOwner device = released.selectOwner device := fun device => by
    rw [selectOwner, howners', selectOwner]
  refine ⟨next, ?_, hnonces'.trans hnonces, hclaims'.trans hclaims, ?_, fun event hmem => ?_,
    fun device => ?_⟩
  · rw [releaseOwner, hselect]
    simp only [failIf_bind_eq_ok, hactive, not_true_eq_false, if_false, huser, htenant, hreleased,
      ok_bind, hnext]
    exact ⟨by simp, UInt64.not_le.mpr hroom, rfl⟩
  · refine hevents.step deviceID _ (fun device => (hfinal device).trans (howners device))
      (fun last hmem => ?_) fun event hmem => ?_
    · grind
    · grind
  · grind
  · rw [hfinal, howners]

end Database

/-! ## Calls -/

variable {rest bytes : List UInt8}

theorem randomID_append (h : bytes.length = size) :
    randomID size (bytes ++ rest) = .ok (Base64.encodeToString bytes, rest) := by
  subst h
  rw [randomID, readFull, if_neg (by simp), ok_bind, List.take_left, List.drop_left]
  rfl

theorem isToken_encodeToString (h : bytes.length = 16) :
    IsToken (Base64.encodeToString bytes) = true :=
  isToken_of_canonical (h ▸ Base64.canonical_encodeToString bytes)

section

variable {α δ : Type} {body : δ → Except Error (α × δ)}

theorem runOwnership_ok
    (h : body db = .ok (value, next)) : runOwnership .reported body db = (next, .ok value) :=
  runTransaction_eq_ok.mpr ⟨rfl, h⟩

theorem runOwnership_error
    (h : body db = .error err) : runOwnership .reported body db = (db, .error (settle err)) := by
  rw [runOwnership, runTransaction, h]

end

end XiaozhiPlatform.DeviceClaim
