import XiaozhiPlatform.DeviceClaim.Owners

/-!
# Agreement of the two device claim stores

The reference store and the PostgreSQL store agree when they have the same owners, the same claims
that are alive and the same nonces in use. The reference store keeps the nonce of a `Begin` that it
refuses while the transaction rolls it back, so the nonces of refused calls are left out.

- `ClaimsAgree`, `NoncesAgree`, `OwnersAgree`: the parts of the relation, of which an update touches
  one or two.
- `begin_matches`, `confirm_matches`, `release_matches`, `OwnersAgree.owner`, `OwnersAgree.ownersOf`:
  a call on both stores has one reply and keeps the relation.
-/

namespace XiaozhiPlatform.DeviceClaim

open GoLib Auth Sql

/-! ## The relation -/

/-- The claim of a row as the reference store keeps it. -/
def ClaimRow.stored (row : ClaimRow) : StoredRecord :=
  ⟨row.requestID, row.ownerID, row.tenantID, row.deviceID, row.claimDigest, row.status,
    row.expiresAt⟩

/-- The claims that are alive are the same, and the table knows the request of every claim. -/
structure ClaimsAgree (clock : Time) (store : Store) (db : Database) : Prop where
  indexed : store.Indexed
  claims : ∀ digest : Digest, (store.claim digest).filter (clock < ·.expiresAt) =
    ((db.selectClaimByDigest digest).map ClaimRow.stored).filter (clock < ·.expiresAt)
  expired : ∀ (id : String) (record : StoredRecord), store.records[id]? = some record →
    record.status = .expired → record.expiresAt ≤ clock
  requests : ∀ (id : String) (record : StoredRecord), store.records[id]? = some record →
    ∃ row ∈ db.claims.rows, row.requestID = id

/-- The nonces in use are the same, apart from those of the calls that were refused. -/
def NoncesAgree (burned : String × String × String → Prop) (clock : Time) (store : Store)
    (db : Database) : Prop :=
  ∀ tenantID userID appNonce : String, ValidIdentifier tenantID 128 → ValidIdentifier userID 128 →
    ¬ burned (tenantID, userID, appNonce) →
    store.appNonces[nonceKey tenantID userID appNonce]?.filter (clock < ·) =
      ((db.selectNonce (tenantID, userID, appNonce)).map (·.expiresAt)).filter (clock < ·)

/-- The owners are the same, and the table is as `Owners` and the event log need it. -/
structure OwnersAgree (store : Store) (db : Database) : Prop where
  owners : ∀ device : String, store.owners[device]? = db.selectOwner device
  bindings : ∀ row ∈ db.owners.rows, ValidBindingID row.bindingID
  events : db.Events

structure Agrees (burned : String × String × String → Prop) (clock : Time) (config : PostgresStore)
    (store : Store) (db : Database) : Prop where
  ttl : store.ttl = config.ttl
  maxRecords : store.maxRecords = config.maxRecords
  claims : ClaimsAgree clock store db
  nonces : NoncesAgree burned clock store db
  owners : OwnersAgree store db

/-! ## Time -/

variable {burned burned' : String × String × String → Prop} {clock clock' : Time}
  {config : PostgresStore} {store store' : Store} {db db' : Database}

theorem filter_later {α : Type} (expires : α → Time) (h : clock ≤ clock') (value : Option α) :
    (value.filter (clock < expires ·)).filter (clock' < expires ·) =
      value.filter (clock' < expires ·) := by
  cases value with
  | none => rfl
  | some a => grind

namespace ClaimsAgree

section

variable (h : ClaimsAgree clock store db)

include h

theorem later (hclock : clock ≤ clock') :
    ClaimsAgree clock' store db where
  indexed := h.indexed
  claims digest := by
    rw [← filter_later _ hclock, h.claims, filter_later _ hclock]
  expired id record hrecord hstatus := le_trans (h.expired id record hrecord hstatus) hclock
  requests := h.requests

theorem cleanup : ClaimsAgree clock (store.cleanup clock) db where
  indexed := h.indexed.cleanup clock
  claims digest := by
    rw [h.indexed.claim_cleanup, filter_later _ le_rfl, h.claims]
  expired id record hrecord hstatus := by
    rw [Store.records_cleanup, Option.bind_eq_some_iff] at hrecord
    obtain ⟨before, hbefore, hswept⟩ := hrecord
    rw [Store.swept] at hswept
    split at hswept
    · simp at hswept
    · split at hswept
      next hexpired => grind
      next =>
        obtain rfl := Option.some.inj hswept
        exact h.expired id before hbefore hstatus
  requests id record hrecord := by
    rw [Store.records_cleanup, Option.bind_eq_some_iff] at hrecord
    obtain ⟨before, hbefore, -⟩ := hrecord
    exact h.requests id before hbefore

theorem congr (httl : store'.ttl = store.ttl)
    (hrecords : store'.records = store.records) (hindex : store'.byDigest = store.byDigest)
    (hclaims : db'.claims = db.claims) : ClaimsAgree clock store' db' := by
  refine ⟨h.indexed.congr httl hrecords hindex, fun digest => ?_, ?_, ?_⟩
  · rw [Store.claim, hrecords, hindex, Database.selectClaimByDigest, hclaims]
    exact h.claims digest
  · rw [hrecords]
    exact h.expired
  · rw [hrecords, hclaims]
    exact h.requests

theorem claim_cleanup {digest : Digest}
    (halive : ∀ row ∈ db.selectClaimByDigest digest, clock < row.expiresAt) :
    (store.cleanup clock).claim digest = (db.selectClaimByDigest digest).map ClaimRow.stored := by
  rw [h.indexed.claim_cleanup, h.claims]
  cases hrow : db.selectClaimByDigest digest with
  | none => rfl
  | some row =>
    rw [Option.map_some, Option.filter_some]
    exact if_pos (decide_eq_true (halive row hrow))

theorem exists_alive_iff (digest : Digest) :
    (∃ record ∈ store.claim digest, clock < record.expiresAt) ↔
      ∃ row ∈ db.selectClaimByDigest digest, clock < row.expiresAt := by
  have hclaims := h.claims digest
  constructor
  · rintro ⟨record, hrecord, halive⟩
    rw [Option.mem_def.mp hrecord, Option.filter_some, if_pos (decide_eq_true halive)] at hclaims
    obtain ⟨hmap, -⟩ := Option.filter_eq_some_iff.mp hclaims.symm
    obtain ⟨row, hrow, rfl⟩ := Option.map_eq_some_iff.mp hmap
    exact ⟨row, hrow, halive⟩
  · rintro ⟨row, hrow, halive⟩
    rw [Option.mem_def.mp hrow, Option.map_some, Option.filter_some,
      if_pos (decide_eq_true (show clock < row.stored.expiresAt from halive))] at hclaims
    exact ⟨row.stored, (Option.filter_eq_some_iff.mp hclaims).1, halive⟩

theorem mem_alive_digests (digest : Digest) :
    digest ∈ (store.records.toList.filter fun entry => clock < entry.2.expiresAt).map
        (·.2.digest) ↔ ∃ record ∈ store.claim digest, clock < record.expiresAt := by
  simp only [List.mem_map, List.mem_filter, decide_eq_true_eq, Prod.exists,
    Std.ExtTreeMap.mem_toList_iff_getElem?_eq_some]
  constructor
  · rintro ⟨id, record, ⟨hrecord, halive⟩, rfl⟩
    have hstatus : record.status ≠ .expired := fun hexpired =>
      absurd (h.expired id record hrecord hexpired) (not_le.mpr halive)
    refine ⟨record, h.indexed.claim_eq_some.mpr ⟨?_, rfl, hstatus⟩, halive⟩
    rw [h.indexed.requestID id record hrecord]
    exact hrecord
  · rintro ⟨record, hrecord, halive⟩
    obtain ⟨hfound, rfl, -⟩ := h.indexed.claim_eq_some.mp hrecord
    exact ⟨record.requestID, record, ⟨hfound, halive⟩, rfl⟩

theorem activeRecords :
    store.activeRecords clock = db.claims.count fun row => clock < row.expiresAt := by
  -- The two counts are the lengths of two lists of digests with the same members.
  have hleft : ((store.records.toList.filter fun entry => clock < entry.2.expiresAt).map
      (·.2.digest)).Nodup := by
    refine List.pairwise_map.mpr ((Map.pairwise_toList.filter _).imp_of_mem
      fun {x y} hx hy hne hdigest => hne ?_)
    have hindex : ∀ z ∈ store.records.toList.filter fun entry => clock < entry.2.expiresAt,
        store.byDigest[z.2.digest]? = some z.1 := by
      rintro ⟨id, record⟩ hz
      rw [List.mem_filter, Std.ExtTreeMap.mem_toList_iff_getElem?_eq_some,
        decide_eq_true_eq] at hz
      exact h.indexed.complete id record hz.1 fun hexpired =>
        absurd (h.expired id record hz.1 hexpired) (not_le.mpr hz.2)
    have hx' := hindex x hx
    rw [hdigest, hindex y hy] at hx'
    exact (Option.some.inj hx').symm
  have hright : ((db.claims.rows.filter fun row => clock < row.expiresAt).map
      ClaimRow.claimDigest).Nodup :=
    db.nodup_claimDigest.sublist (List.filter_sublist.map ClaimRow.claimDigest)
  have hmem : ∀ digest : Digest,
      digest ∈ (db.claims.rows.filter fun row => clock < row.expiresAt).map ClaimRow.claimDigest ↔
        ∃ row ∈ db.selectClaimByDigest digest, clock < row.expiresAt := by
    grind [Option.mem_def, Database.selectClaimByDigest_eq_some]
  have hperm := (List.perm_ext_iff_of_nodup hleft hright).mpr fun digest => by
    rw [h.mem_alive_digests, h.exists_alive_iff, hmem]
  have hlength := hperm.length_eq
  rw [List.length_map, List.length_map] at hlength
  rw [Store.activeRecords, Table.count, List.countP_eq_length_filter, hlength,
    List.countP_eq_length_filter]

theorem addClaim (row : ClaimRow)
    (hid : store.records[row.requestID]? = none) (hindex : store.byDigest[row.claimDigest]? = none)
    (hfresh : db.selectClaimByDigest row.claimDigest = none) (hstatus : row.status = .pending)
    (hrows : db'.claims.rows = db.claims.rows ++ [row]) :
    ClaimsAgree clock (store.addClaim row.stored) db' where
  indexed := h.indexed.addClaim hid hindex (by simp [ClaimRow.stored, hstatus])
  claims digest := by
    rw [h.indexed.claim_addClaim hid, Database.selectClaim_insert hrows hfresh]
    by_cases hdigest : row.claimDigest = digest
    · rw [if_pos hdigest, if_pos (show row.stored.digest = digest from hdigest), Option.map_some]
    · rw [if_neg hdigest, if_neg (show ¬ row.stored.digest = digest from hdigest)]
      exact h.claims digest
  expired id record hrecord hexpired := by
    simp only [Store.addClaim, Map.getElem?_insert] at hrecord
    split at hrecord
    next =>
      obtain rfl := Option.some.inj hrecord
      exact absurd (hstatus.symm.trans hexpired) (by simp)
    next => exact h.expired id record hrecord hexpired
  requests id record hrecord := by
    simp only [Store.addClaim, Map.getElem?_insert] at hrecord
    rw [hrows]
    split at hrecord
    next heq => exact ⟨row, by simp, heq⟩
    next =>
      obtain ⟨other, hother, hid⟩ := h.requests id record hrecord
      exact ⟨other, List.mem_append_left _ hother, hid⟩

theorem markBound {digest : Digest} {row : ClaimRow}
    (hclaim : store.claim digest = some row.stored)
    (hrow : db.selectClaimByDigest digest = some row)
    (hclaims : ∀ other, db'.selectClaimByDigest other =
      if digest = other then some { row with status := .bound }
      else db.selectClaimByDigest other) :
    ClaimsAgree clock (store.markBound row.requestID row.stored) db' := by
  obtain ⟨hentry, hrecord⟩ := Store.byDigest_of_claim h.indexed hclaim
  refine ⟨h.indexed.markBound hentry hrecord, fun other => ?_, fun id record hfound hexpired => ?_,
    fun id record hfound => ?_⟩
  · have hmarked : (store.markBound row.requestID row.stored).claim other = _ :=
      h.indexed.claim_markBound hentry other
    rw [hmarked, hclaims]
    by_cases heq : digest = other
    · rw [if_pos heq, if_pos heq]
      rfl
    · rw [if_neg heq, if_neg heq]
      exact h.claims other
  · simp only [Store.markBound, Map.getElem?_insert] at hfound
    split at hfound
    next => grind
    next => exact h.expired id record hfound hexpired
  · -- The rows keep their requests.
    have hbefore : ∃ old ∈ db.claims.rows, old.requestID = id := by
      simp only [Store.markBound, Map.getElem?_insert] at hfound
      split at hfound
      next heq => exact heq ▸ ⟨row, (Database.selectClaimByDigest_eq_some.mp hrow).1, rfl⟩
      next => exact h.requests id record hfound
    obtain ⟨old, hold, rfl⟩ := hbefore
    have hselect : db.selectClaimByDigest old.claimDigest = some old :=
      Database.selectClaimByDigest_eq_some.mpr ⟨hold, rfl⟩
    have hafter := hclaims old.claimDigest
    split at hafter
    next heq => grind [Option.some.inj, Database.selectClaimByDigest_eq_some]
    next => grind [Database.selectClaimByDigest_eq_some]

end

end ClaimsAgree

/-! ## Nonces -/

theorem nonceKey_inj (htenant : ValidIdentifier tenantID 128) (huser : ValidIdentifier userID 128)
    (htenant' : ValidIdentifier tenantID' 128) (huser' : ValidIdentifier userID' 128)
    (h : nonceKey tenantID userID appNonce = nonceKey tenantID' userID' appNonce') :
    (tenantID, userID, appNonce) = (tenantID', userID', appNonce') := by
  have hnul : ∀ {value : String}, ValidIdentifier value 128 → '\x00' ∉ value.toList :=
    fun hvalid hmem => absurd (hvalid.2.2 _ hmem) (by decide)
  have hlist : ∀ tenant user nonce : String, (nonceKey tenant user nonce).toList =
      tenant.toList ++ '\x00' :: (user.toList ++ '\x00' :: nonce.toList) := by
    intro tenant user nonce
    simp [nonceKey, String.toList_append]
  have heq := congrArg String.toList h
  rw [hlist, hlist, Keyed.append_separator_inj (hnul htenant) (hnul htenant'),
    Keyed.append_separator_inj (hnul huser) (hnul huser')] at heq
  obtain ⟨htenants, husers, hnonces⟩ := heq
  rw [String.toList_inj.mp htenants, String.toList_inj.mp husers, String.toList_inj.mp hnonces]

namespace NoncesAgree

section

variable (h : NoncesAgree burned clock store db)

include h

theorem later (hclock : clock ≤ clock') : NoncesAgree burned clock' store db := by
  intro tenantID userID appNonce htenant huser hburned
  have hfilter := fun value : Option Time => filter_later id hclock value
  refine (hfilter _).symm.trans (Eq.trans ?_ (hfilter _))
  exact congrArg _ (h tenantID userID appNonce htenant huser hburned)

theorem cleanup : NoncesAgree burned clock (store.cleanup clock) db := by
  intro tenantID userID appNonce htenant huser hburned
  rw [Store.appNonces_cleanup, Map.getElem?_filter]
  exact (filter_later id le_rfl _).trans (h tenantID userID appNonce htenant huser hburned)

theorem congr (hburned : ∀ key, burned key → burned' key)
    (hstore : store'.appNonces = store.appNonces) (hdb : db'.nonces = db.nonces) :
    NoncesAgree burned' clock store' db' := by
  intro tenantID userID appNonce htenant huser hfree
  rw [hstore, Database.selectNonce, hdb]
  exact h tenantID userID appNonce htenant huser fun hkey => hfree (hburned _ hkey)

end

variable {tenantID userID appNonce : String}

section

variable (h : NoncesAgree burned clock store db) (hburned : ∀ key, burned key → burned' key)
  (htenant : ValidIdentifier tenantID 128) (huser : ValidIdentifier userID 128)

include h hburned htenant huser

/-- A nonce that both stores accept is in use in both. -/
theorem use (hselect : ∀ key, db'.selectNonce key = if (tenantID, userID, appNonce) = key then
      some ⟨tenantID, userID, appNonce, clock + store.ttl⟩ else db.selectNonce key) :
    NoncesAgree burned' clock (store.useNonce (nonceKey tenantID userID appNonce) clock) db' := by
  intro tenant user nonce htenant' huser' hfree
  rw [Store.useNonce, Map.getElem?_insert, hselect]
  by_cases hkey : (tenantID, userID, appNonce) = (tenant, user, nonce)
  · grind
  · rw [if_neg hkey, if_neg fun heq => hkey (nonceKey_inj htenant huser htenant' huser' heq)]
    exact h tenant user nonce htenant' huser' fun hburn => hfree (hburned _ hburn)

theorem burn (hkey : burned' (tenantID, userID, appNonce)) :
    NoncesAgree burned' clock (store.useNonce (nonceKey tenantID userID appNonce) clock) db := by
  intro tenant user nonce htenant' huser' hfree
  rw [Store.useNonce, Map.getElem?_insert, if_neg]
  · exact h tenant user nonce htenant' huser' fun hburn => hfree (hburned _ hburn)
  · grind [nonceKey_inj]

end

theorem exists_used_iff (h : NoncesAgree burned clock store db) (htenant : ValidIdentifier tenantID
    128) (huser : ValidIdentifier userID 128) (hfree : ¬ burned (tenantID, userID, appNonce)) : (∃
    expires ∈ store.appNonces[nonceKey tenantID userID appNonce]?, clock < expires) ↔ ∃ row ∈
    db.selectNonce (tenantID, userID, appNonce), clock < row.expiresAt := by
  have hagree := h tenantID userID appNonce htenant huser hfree
  constructor
  · grind [Option.mem_def, Option.filter_eq_some_iff, Option.map_eq_some_iff]
  · rintro ⟨row, hrow, hlive⟩
    rw [Option.mem_def.mp hrow, Option.map_some, Option.filter_some,
      if_pos (decide_eq_true hlive)] at hagree
    exact ⟨row.expiresAt, (Option.filter_eq_some_iff.mp hagree).1, hlive⟩

end NoncesAgree

/-! ## Owners -/

namespace OwnersAgree

section

variable (h : OwnersAgree store db)

include h

theorem validBindingID (hselect : db.selectOwner device = some entry) :
    ValidBindingID entry.bindingID := by
  obtain ⟨row, hrow, -, rfl⟩ := Database.selectOwner_eq_some.mp hselect
  exact h.bindings row hrow

theorem congr (hstore : store'.owners = store.owners)
    (howners : ∀ device, db'.selectOwner device = db.selectOwner device) (hevents : db'.Events) :
    OwnersAgree store' db' := by
  refine ⟨fun device => ?_, fun row hrow => ?_, hevents⟩
  · rw [hstore, howners, h.owners]
  · have hselect := Database.selectOwner_eq_some.mpr ⟨row, hrow, rfl, rfl⟩
    rw [howners] at hselect
    exact h.validBindingID hselect

theorem tables (hstore : store'.owners = store.owners) (howners : db'.owners = db.owners)
    (hevents : db'.events = db.events) : OwnersAgree store' db' := by
  have hselect : ∀ device, db'.selectOwner device = db.selectOwner device := fun device => by
    rw [Database.selectOwner, howners, ← Database.selectOwner]
  refine h.congr hstore hselect fun event hevent => ?_
  rw [hevents] at hevent
  rw [hselect]
  exact h.events event hevent

theorem write (device : String) (entry : OwnershipEntry) (hbinding :
    ValidBindingID entry.bindingID) (hstore : store'.owners = store.owners.insert device entry)
    (howners : ∀ other, db'.selectOwner other = if device = other then some entry else
    db.selectOwner other) (hevents : db'.Events) : OwnersAgree store' db' := by
  refine ⟨fun other => ?_, fun row hrow => ?_, hevents⟩
  · rw [hstore, Map.getElem?_insert, howners, h.owners]
  · have hselect := Database.selectOwner_eq_some.mpr ⟨row, hrow, rfl, rfl⟩
    rw [howners] at hselect
    split at hselect
    next =>
      obtain rfl := Option.some.inj hselect
      exact hbinding
    next => exact h.validBindingID hselect

theorem current (device : String) : store.current device = db.current device := by
  rw [Store.current, Database.current, h.owners]

theorem newBindingID {bytes : List UInt8} (hlength : bytes.length =
    bindingBytes) (hfresh : ∀ row ∈ db.owners.rows, row.bindingID ≠ Base64.encodeToString bytes) :
    store.newBindingID bytes = .ok (Base64.encodeToString bytes) := by
  refine newCanonicalID_of_fresh hlength (Bool.eq_false_iff.mpr fun hany => ?_)
  obtain ⟨⟨device, owner⟩, hmem, hbinding⟩ := List.any_eq_true.mp hany
  rw [Std.ExtTreeMap.mem_toList_iff_getElem?_eq_some, h.owners] at hmem
  obtain ⟨row, hrow, -, rfl⟩ := Database.selectOwner_eq_some.mp hmem
  exact hfresh row hrow (of_decide_eq_true hbinding)

end

end OwnersAgree

/-! ## Calls -/

namespace Agrees

section

variable (h : Agrees burned clock config store db)

include h

theorem later (hclock : clock ≤ clock') : Agrees burned clock' config store db :=
  ⟨h.ttl, h.maxRecords, h.claims.later hclock, h.nonces.later hclock, h.owners⟩

theorem cleanup :
    Agrees burned clock config (store.cleanup clock) db where
  ttl := Store.ttl_cleanup.trans h.ttl
  maxRecords := Store.maxRecords_cleanup.trans h.maxRecords
  claims := h.claims.cleanup
  nonces := h.nonces.cleanup
  owners := h.owners.tables Store.owners_cleanup rfl rfl

theorem mono (hburned : ∀ key, burned key → burned' key) : Agrees burned' clock config store db :=
  { h with nonces := h.nonces.congr hburned rfl rfl }

end

end Agrees

/-- What the two stores make of a call: one reply, and states that agree. A nonce that only the
reference store keeps is one of a `Begin` that was refused. -/
def Matches {α : Type} (burned : String × String × String → Prop) (clock : Time)
    (config : PostgresStore) (nonce : Option (String × String × String))
    (reference : Store × Except Error α) (postgres : Database × Except Error α) : Prop :=
  reference.2 = postgres.2 ∧ ∀ burned' : String × String × String → Prop,
    (∀ key, burned key → burned' key) →
    (reference.2 = .error errConflict ∨ reference.2 = .error errCapacity →
      ∀ key ∈ nonce, burned' key) →
    Agrees burned' clock config reference.1 postgres.1

theorem Matches.same {α : Type} {reply reply' : Except Error α}
    {nonce : Option (String × String × String)} (h : Agrees burned clock config store db)
    (hreply : reply = reply') : Matches burned clock config nonce (store, reply) (db, reply') :=
  ⟨hreply, fun _ hburned _ => h.mono hburned⟩

theorem runOwnership_refused {α δ : Type} {body : δ → Except Error (α × δ)} {state : δ} {err :
    Error} (h : body state = .error err) (hbusiness : isBusinessError err = true) : runOwnership
    .reported body state = (state, .error err) := by
  rw [runOwnership_error h, settle, if_pos hbusiness]

/-- A call that is refused leaves both stores as they are. -/
theorem Matches.refused {α : Type} {body : Database → Except Error (α × Database)} {err : Error}
    {nonce : Option (String × String × String)} (h : Agrees burned clock config store db)
    (hbody : body db = .error err) (hbusiness : isBusinessError err = true) :
    Matches burned clock config nonce (store, .error err) (runOwnership .reported body db) := by
  rw [runOwnership_refused hbody hbusiness]
  exact .same h rfl

section Begin

variable {userID tenantID deviceID code appNonce : String} {request : List UInt8}

section

variable (h : Agrees burned clock config store db) (hwhole : timestamptz clock = clock)

include h hwhole

theorem register_matches (httl : timestamptz (clock + config.ttl) = clock + config.ttl)
    (hvalid : ValidBegin
    userID tenantID deviceID code appNonce clock) (hrequest : request.length = requestBytes) (hfresh
    : ∀ row ∈ db.claims.rows, row.requestID ≠ Base64.encodeToString request) (halive : ∀ row ∈
    db.selectClaimByDigest (claimDigest code), clock < row.expiresAt) (hclaim : store.claim
    (claimDigest code) = (db.selectClaimByDigest (claimDigest code)).map ClaimRow.stored) {used :
    Database} (hused : db.acceptNonce tenantID userID appNonce (clock + config.ttl) clock = .ok
    (some used)) (hselect : ∀ key, used.selectNonce key = if (tenantID, userID, appNonce) = key then
    some ⟨tenantID, userID, appNonce, clock + config.ttl⟩ else db.selectNonce key) : Matches burned
    clock config (some (tenantID, userID, appNonce)) ((store.useNonce (nonceKey tenantID userID
    appNonce) clock).register userID tenantID deviceID (claimDigest code) clock request)
    (runOwnership .reported (fun db => db.beginClaim config.ttl config.maxRecords userID tenantID
    deviceID appNonce (Base64.encodeToString request) (claimDigest code) clock) db) := by
  obtain ⟨huser, htenant, hdevice, -, -, -⟩ := hvalid
  obtain ⟨hclaims, howners, hevents⟩ := Database.acceptNonce_ok hused
  -- The two ways the nonce can end: kept by both stores, or by the reference store alone.
  have hkept : ∀ burned' : String × String × String → Prop, (∀ key, burned key → burned' key) →
      Agrees burned' clock config (store.useNonce (nonceKey tenantID userID appNonce) clock) used :=
    fun burned' hburned => ⟨h.ttl, h.maxRecords, h.claims.congr rfl rfl rfl hclaims,
      h.nonces.use hburned htenant huser (by rw [h.ttl]; exact hselect),
      h.owners.tables rfl howners hevents⟩
  have hburnt : ∀ burned' : String × String × String → Prop, (∀ key, burned key → burned' key) →
      burned' (tenantID, userID, appNonce) →
      Agrees burned' clock config (store.useNonce (nonceKey tenantID userID appNonce) clock) db :=
    fun burned' hburned hkey => ⟨h.ttl, h.maxRecords, h.claims.congr rfl rfl rfl rfl,
      h.nonces.burn hburned htenant huser hkey, h.owners.tables rfl rfl rfl⟩
  have hclaim : (store.useNonce (nonceKey tenantID userID appNonce) clock).claim
      (claimDigest code) = (db.selectClaimByDigest (claimDigest code)).map ClaimRow.stored := hclaim
  generalize store.useNonce (nonceKey tenantID userID appNonce) clock = noted at *
  have hnoted := hburnt (fun _ => True) (fun _ _ => trivial) trivial
  cases hrow : db.selectClaimByDigest (claimDigest code) with
  | some row =>
    have hlive : clock < row.expiresAt := halive row hrow
    rw [hrow, Option.map_some] at hclaim
    rw [Store.register_of_claim hnoted.claims.indexed hclaim hlive]
    by_cases hsame : row.ownerID ≠ userID ∨ row.tenantID ≠ tenantID ∨ row.deviceID ≠ deviceID
    · -- The claim is of another user, tenant or device.
      rw [if_pos (by exact hsame), runOwnership_refused ((Database.beginClaim_existing hused hrow).trans
        (if_pos (by tauto))) rfl]
      exact ⟨rfl, fun burned' hburned hkey => hburnt burned' hburned (hkey (.inl rfl) _ rfl)⟩
    · rw [if_neg (by exact hsame), runOwnership_ok ((Database.beginClaim_existing hused hrow).trans
        (if_neg (by tauto)))]
      refine ⟨?_, fun burned' hburned _ => hkept burned' hburned⟩
      simp [publicRecord, ClaimRow.stored, ClaimRow.record, hlive]
  | none =>
    have hindex : noted.byDigest[claimDigest code]? = none := by
      rw [← Store.claim_eq_none hnoted.claims.indexed, hclaim, hrow]
      rfl
    have hdigest : used.selectClaimByDigest (claimDigest code) = none :=
      (Database.acceptNonce_selectClaimByDigest hused).trans hrow
    have hselectOwner : used.selectOwner deviceID = db.selectOwner deviceID := by
      rw [Database.selectOwner, howners, Database.selectOwner]
    rw [Store.register, hindex]
    simp only [hnoted.owners.owners deviceID]
    by_cases howner : db.OwnedByOther deviceID userID tenantID
    · -- The device is of another owner.
      rw [if_pos howner, runOwnership_refused (show _ = Except.error errConflict by
        simp only [Database.beginClaim, hused, ok_bind, hdigest, hselectOwner,
          failIf_of_pos howner, error_bind]) rfl]
      exact ⟨rfl, fun burned' hburned hkey => hburnt burned' hburned (hkey (.inl rfl) _ rfl)⟩
    rw [if_neg howner, hnoted.claims.activeRecords, hnoted.maxRecords]
    by_cases hfull : config.maxRecords ≤ db.claims.count fun row => clock < row.expiresAt
    · rw [if_pos hfull, runOwnership_refused (show _ = Except.error errCapacity by
        simp only [Database.beginClaim, hused, ok_bind, hdigest, hselectOwner, hclaims,
          failIf_of_neg howner, failIf_of_pos hfull, error_bind]) rfl]
      exact ⟨rfl, fun burned' hburned hkey => hburnt burned' hburned (hkey (.inr rfl) _ rfl)⟩
    -- The request is new to the table, so it is new to the reference store.
    have hnew : noted.records[Base64.encodeToString request]? = none := by
      by_contra hsome
      obtain ⟨record, hrecord⟩ := Option.ne_none_iff_exists'.mp hsome
      obtain ⟨row, hmem, hid⟩ := hnoted.claims.requests _ record hrecord
      exact hfresh row hmem hid
    have hid : noted.newRequestID request = .ok (Base64.encodeToString request) :=
      newCanonicalID_of_fresh hrequest
        (show noted.records.contains (Base64.encodeToString request) = false by
          rw [Std.ExtTreeMap.contains_eq_isSome_getElem?, hnew]
          rfl)
    have httl' : 0 < config.ttl := lt_of_lt_of_le (by decide) config.ttl_valid.1
    have hlive : clock < clock + config.ttl := by linarith
    have hchecked : claimsSchema.Checked ⟨Base64.encodeToString request, tenantID, userID, deviceID,
        claimDigest code, .pending, timestamptz (clock + config.ttl), timestamptz clock⟩ :=
      checked_claim.mpr ⟨isToken_encodeToString hrequest, htenant, huser, hdevice, .inl rfl, by
        rw [hwhole, httl]
        exact hlive⟩
    obtain ⟨next, hnext, hnonces, hnextOwners, hnextEvents, hrows⟩ :=
      Database.exists_beginClaim hused hchecked hfresh hrow howner hfull
    rw [if_neg hfull, hid, runOwnership_ok hnext]
    rw [httl] at hrows
    refine ⟨?_, fun burned' hburned _ => ?_⟩
    · simp [Except.mapError, publicRecord, hnoted.ttl, hlive]
    · have hbefore := hkept burned' hburned
      simp only [Except.mapError, hnoted.ttl]
      exact ⟨hbefore.ttl, hbefore.maxRecords, hnoted.claims.addClaim
        ⟨Base64.encodeToString request, tenantID, userID, deviceID, claimDigest code, .pending,
          clock + config.ttl, timestamptz clock⟩ hnew hindex hrow rfl hrows,
        hbefore.nonces.congr (fun _ => id) rfl hnonces,
        hnoted.owners.tables rfl hnextOwners hnextEvents⟩

/-- `Begin` with the same arguments at the same time. -/
theorem begin_matches (httl : timestamptz config.ttl = config.ttl)
    (hrequest : request.length = requestBytes) (hfresh
    : ∀ row ∈ db.claims.rows, row.requestID ≠ Base64.encodeToString request) (halive : ∀ row ∈
    db.selectClaimByDigest (claimDigest code), clock < row.expiresAt) (hnonce : ¬ burned (tenantID,
    userID, appNonce)) (hroom : (store.cleanup clock).appNonces.size < store.maxRecords * 4) :
    Matches burned clock config (some (tenantID, userID, appNonce)) (store.begin userID tenantID
    deviceID code appNonce clock request) (config.begin db userID tenantID deviceID clock clock
    (request ++ []) .reported code appNonce) := by
  by_cases hvalid : ValidBegin userID tenantID deviceID code appNonce clock
  swap
  · rw [Store.begin, if_pos hvalid, PostgresStore.begin, if_pos hvalid]
    exact .same h rfl
  obtain ⟨huser, htenant, -, -, htoken, -⟩ := id hvalid
  rw [PostgresStore.begin, if_neg (not_not.mpr hvalid), randomID_append hrequest, hwhole,
    Store.begin, if_neg (not_not.mpr hvalid)]
  simp only [Except.mapError]
  have hswept := h.cleanup
  have hused := hswept.nonces.exists_used_iff htenant huser hnonce
  by_cases hreplay : ∃ expires ∈ (store.cleanup clock).appNonces[nonceKey tenantID userID
      appNonce]?, clock < expires
  · -- The nonce is in use in both stores.
    obtain ⟨row, hrow, hlive⟩ := hused.mp hreplay
    rw [if_pos hreplay]
    exact .refused hswept (by
      rw [Database.beginClaim, Database.acceptNonce_eq_none hrow hlive]
      rfl) rfl
  · have hlater : timestamptz (clock + config.ttl) = clock + config.ttl :=
      timestamptz_add hwhole httl
    obtain ⟨used, hused', hselect⟩ := Database.exists_acceptNonce db (clock + config.ttl) clock
      htenant huser (isToken_of_canonical htoken)
      fun row hrow => not_lt.mp fun hlive => hreplay (hused.mpr ⟨row, hrow, hlive⟩)
    rw [if_neg hreplay, if_neg]
    · exact register_matches hswept hwhole hlater hvalid hrequest hfresh halive
        (h.claims.claim_cleanup halive) hused' (hlater ▸ hselect)
    · rw [Store.maxRecords_cleanup]
      exact not_le.mpr hroom

end

end Begin

section Confirm

variable {deviceID code : String} {event binding : List UInt8}

/-- `Confirm` with the same arguments at the same time. -/
theorem confirm_matches (h : Agrees burned clock config store db) (hwhole : timestamptz clock =
    clock) (hevent : event.length = requestBytes) (hbinding : binding.length = bindingBytes)
    (heventFresh : ∀ row ∈ db.events.rows, row.eventID ≠ Base64.encodeToString event) (hbindingFresh
    : ∀ row ∈ db.owners.rows, row.bindingID ≠ Base64.encodeToString binding) (halive : ∀ row ∈
    db.selectClaimByDigest (claimDigest code), clock < row.expiresAt) (hrevision : ∀ owner ∈
    db.selectOwner deviceID, owner.active = true → owner.bindingRevision < maximumBindingRevision) :
    Matches burned clock config none (store.confirm deviceID code clock binding)
    (PostgresStore.confirm db deviceID clock clock (event ++ (binding ++ [])) .reported code) := by
  by_cases hvalid : ValidConfirm deviceID code clock
  swap
  · rw [Store.confirm, if_pos hvalid, PostgresStore.confirm, if_pos hvalid]
    exact .same h rfl
  have hswept := h.cleanup
  rw [PostgresStore.confirm, if_neg (not_not.mpr hvalid), randomID_append hevent, hwhole,
    Store.confirm, if_neg (not_not.mpr hvalid)]
  simp only [Except.mapError, randomID_append hbinding]
  have hclaim := h.claims.claim_cleanup halive
  cases hrow : db.selectClaimByDigest (claimDigest code) with
  | none =>
    rw [hrow, Option.map_none, Store.claim_eq_none hswept.claims.indexed] at hclaim
    simp only [hclaim]
    exact .refused hswept (by rw [Database.confirmClaim, hrow]) rfl
  | some row =>
    rw [hrow, Option.map_some] at hclaim
    have hlive : clock < row.expiresAt := halive row hrow
    obtain ⟨hentry, hrecord⟩ := Store.byDigest_of_claim hswept.claims.indexed hclaim
    simp only [hentry, hrecord, hswept.owners.owners,
      if_neg (show ¬ ¬ clock < row.stored.expiresAt from not_not.mpr hlive)]
    by_cases hdevice : row.deviceID = deviceID
    swap
    · rw [if_pos (show row.stored.deviceID ≠ deviceID from hdevice)]
      exact .refused hswept
        (by simp only [Database.confirmClaim, hrow, failIf_of_pos hdevice, error_bind]) rfl
    rw [if_neg (show ¬ row.stored.deviceID ≠ deviceID from not_not.mpr hdevice)]
    by_cases hother : db.OwnedByOther deviceID row.ownerID row.tenantID
    · rw [if_pos (show db.OwnedByOther deviceID row.stored.userID row.stored.tenantID from hother)]
      exact .refused hswept (by
        simp only [Database.confirmClaim, hrow, failIf_of_neg (not_not.mpr hdevice),
          failIf_of_neg (not_not.mpr hlive), failIf_of_pos hother, ok_bind, error_bind]) rfl
    rw [if_neg (show ¬ db.OwnedByOther deviceID row.stored.userID row.stored.tenantID from hother)]
    have howner : (store.cleanup clock).owners[deviceID]? = db.selectOwner deviceID :=
      hswept.owners.owners deviceID
    have hcanonical : ValidBindingID (Base64.encodeToString binding) := by
      rw [ValidBindingID, ← hbinding]
      exact Base64.canonical_encodeToString binding
    have hnew : (store.cleanup clock).newBindingID binding = .ok (Base64.encodeToString binding) :=
      hswept.owners.newBindingID hbinding hbindingFresh
    by_cases hroom : ∀ owner ∈ db.selectOwner deviceID,
        owner.bindingRevision < maximumBindingRevision
    swap
    · -- A device at the last revision has no owner in force, so both stores have to bind it.
      have hfree : ¬ ∃ owner ∈ db.selectOwner deviceID, owner.active = true := by grind
      have hlast : ∃ owner ∈ db.selectOwner deviceID,
          maximumBindingRevision ≤ owner.bindingRevision := by grind
      rw [Store.bindOwner, howner, if_neg hfree, Store.newOwner, hnew]
      simp only [Except.mapError, ok_bind, failIf_of_pos hlast, error_bind]
      exact .refused hswept (by
        simp only [Database.confirmClaim, hrow, failIf_of_neg (not_not.mpr hdevice),
          failIf_of_neg (not_not.mpr hlive), failIf_of_neg hother, failIf_of_pos hlast, ok_bind,
          error_bind]) rfl
    obtain ⟨next, hnext, hnonces, hevents, -, hclaims, howners⟩ := Database.exists_confirmClaim
      (Base64.encodeToString event) (Base64.encodeToString binding) h.owners.events hrow hdevice
      hlive hother hroom (isToken_encodeToString hevent) (isToken_encodeToString hbinding)
      heventFresh hbindingFresh
    have hmarked := hswept.claims.markBound hclaim hrow hclaims
    have hreply : publicRecord { row.stored with status := .bound } clock =
        { row.record with status := .bound } := by
      simp [publicRecord, ClaimRow.stored, ClaimRow.record, hlive]
    rw [runOwnership_ok hnext]
    by_cases hactive : ∃ owner ∈ db.selectOwner deviceID, owner.active = true
    · -- The device stays with its owner.
      rw [Store.bindOwner, howner, if_pos hactive]
      refine ⟨congrArg Except.ok hreply, fun burned' hburned _ => ⟨hswept.ttl, hswept.maxRecords,
        hmarked.congr rfl rfl rfl rfl, hswept.nonces.congr hburned rfl hnonces,
        hswept.owners.congr rfl (fun device => ?_) hevents⟩⟩
      rw [howners, if_neg fun hfree => hfree.2 hactive]
    · -- The device gets the user of the claim as its owner.
      have hentry : (store.cleanup clock).newOwner row.stored (db.selectOwner deviceID) binding =
          .ok _ := Store.newOwner_eq_ok.mpr ⟨_, hnew, hroom, rfl⟩
      rw [Store.bindOwner, howner, if_neg hactive, hentry, ok_bind]
      refine ⟨congrArg Except.ok hreply, fun burned' hburned _ => ⟨hswept.ttl, hswept.maxRecords,
        hmarked.congr rfl rfl rfl rfl, hswept.nonces.congr hburned rfl hnonces,
        hswept.owners.write deviceID ⟨⟨row.ownerID, row.tenantID, Base64.encodeToString binding,
          nextRevision (db.selectOwner deviceID)⟩, true⟩ hcanonical rfl (fun device => ?_) hevents⟩⟩
      rw [howners]
      simp only [hactive, not_false_eq_true, and_true]

end Confirm

section Release

variable {userID tenantID deviceID : String} {event : List UInt8}

/-- `Release` with the same arguments at the same time. -/
theorem release_matches (h : Agrees burned clock config store db) (hevent : event.length =
    requestBytes) (heventFresh : ∀ row ∈ db.events.rows, row.eventID ≠ Base64.encodeToString event)
    : Matches burned clock config none (store.release userID tenantID deviceID clock)
    (PostgresStore.release db userID tenantID deviceID clock clock (event ++ []) .reported) := by
  by_cases hvalid : ValidRelease userID tenantID deviceID clock
  swap
  · rw [Store.release, if_pos hvalid, PostgresStore.release, if_pos hvalid]
    exact .same h rfl
  rw [PostgresStore.release, if_neg (not_not.mpr hvalid), randomID_append hevent, Store.release,
    if_neg (not_not.mpr hvalid), h.owners.owners]
  simp only [Except.mapError]
  cases howner : db.selectOwner deviceID with
  | none => exact .refused h (by simp only [Database.releaseOwner, howner]) rfl
  | some owner =>
    simp only
    by_cases hother : owner.ownerID ≠ userID ∨ owner.tenantID ≠ tenantID
    · rw [if_pos hother]
      exact .refused h
        (by simp only [Database.releaseOwner, howner, failIf_of_pos hother, error_bind]) rfl
    rw [if_neg hother]
    by_cases hactive : owner.active = true
    swap
    · -- The device has been released before.
      rw [if_pos hactive, runOwnership_ok (by
        simp only [Database.releaseOwner, howner, failIf_of_neg hother, ok_bind, if_pos hactive]
        rfl)]
      exact .same h rfl
    rw [if_neg (not_not.mpr hactive)]
    by_cases hlast : maximumBindingRevision ≤ owner.bindingRevision
    · rw [if_pos hlast]
      exact .refused h (by simp only [Database.releaseOwner, howner, failIf_of_neg hother, ok_bind,
        if_neg (not_not.mpr hactive), failIf_of_pos hlast, error_bind]) rfl
    rw [not_or, not_not, not_not] at hother
    obtain ⟨next, hnext, hnonces, hclaims, hevents, -, howners⟩ := Database.exists_releaseOwner
      (Base64.encodeToString event) (timestamptz clock) h.owners.events howner hactive hother.1
      hother.2 (UInt64.not_le.mp hlast) (isToken_encodeToString hevent) heventFresh
    obtain ⟨row, hrow, -, rfl⟩ := Database.selectOwner_eq_some.mp howner
    have hbinding : ValidBindingID row.entry.bindingID := h.owners.bindings row hrow
    rw [if_neg hlast, runOwnership_ok hnext]
    exact ⟨rfl, fun burned' hburned _ => ⟨h.ttl, h.maxRecords, h.claims.congr rfl rfl rfl hclaims,
      h.nonces.congr hburned rfl hnonces, h.owners.write deviceID
        { row.entry with bindingRevision := row.entry.bindingRevision + 1, active := false }
        hbinding rfl howners hevents⟩⟩

end Release

/-- `Owner` has the same reply. -/
theorem OwnersAgree.owner (h : OwnersAgree store db) (deviceID : String) :
    store.owner deviceID = PostgresStore.owner db deviceID .reported := by
  rw [Store.owner, PostgresStore.owner]
  by_cases hvalid : ValidIdentifier deviceID 64
  · rw [failIf_of_neg (not_not.mpr hvalid), ok_bind, if_neg (not_not.mpr hvalid), h.current]
    rfl
  · rw [failIf_of_pos hvalid, error_bind, if_pos hvalid]

/-- `Owners` has the same reply. -/
theorem OwnersAgree.ownersOf (h : OwnersAgree store db) (deviceIDs : List String) :
    store.ownersOf deviceIDs = PostgresStore.owners db .reported deviceIDs := by
  rw [PostgresStore.owners]
  by_cases hvalid : deviceIDs.length ≤ 1000 ∧ Requestable deviceIDs []
  · obtain ⟨left, hleft, hleftAt⟩ := store.ownersOf_eq_ok hvalid.1 hvalid.2
    obtain ⟨right, hright, hrightAt⟩ := Database.queryOwners_eq_ok h.bindings hvalid.1 hvalid.2
    have heq : left = right := Std.ExtTreeMap.ext_getElem? fun device => by
      rw [hleftAt, hrightAt, h.current]
    rw [hleft, hright, heq]
  · rw [store.ownersOf_eq_error hvalid, Database.queryOwners_eq_error hvalid]

end XiaozhiPlatform.DeviceClaim
