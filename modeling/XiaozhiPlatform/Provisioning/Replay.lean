import XiaozhiPlatform.Provisioning.Proof

/-!
# Replayed device proofs

A run of a verifier is a list of presentations, in the order in which they reserve their nonces.
The coordinator also serves the reservations of other verifiers and other replicas.

A nonce is kept for twice the clock skew from the reading of the clock that it is stored with, and
the timestamp of a proof is accepted within the clock skew on both sides, ends included. So a proof
whose timestamp is ahead by exactly the skew when it is first presented is acceptable up to the very
instant at which its nonce is dropped.

- `retains`: both stores keep a nonce until it expires.
- `proof_authorised_once`: no proof is authorised twice while a nonce that comes again does so before
  it expires, or after its timestamp has left the window.
-/

namespace XiaozhiPlatform.Provisioning

open GoLib Auth

/-! ## Runs -/

/-- What is served on the nonces of a verifier. -/
inductive Call where
  /-- A proof is presented to the verifier. -/
  | authorize (p : Presentation)
  /-- Another verifier reserves a proof with the coordinator. -/
  | reserveProof (started : Time) (args : Coordination.ProofReservation) (outcome : Sql.Outcome)
      (turn : Time)

/-- The clock when a call takes effect. -/
def Call.turn : Call → Time
  | .authorize p => p.turn
  | .reserveProof _ _ _ turn => turn

/-- A call reads the clock before it takes effect. -/
def Call.Ordered : Call → Prop
  | .authorize p => p.now ≤ p.turn ∧ p.started ≤ p.turn
  | .reserveProof started _ _ turn => started ≤ turn

variable {p : Presentation} {nonces : Nonces} {key : String × String}

namespace ProofVerifier

variable (verifier : ProofVerifier)

def serve (nonces : Nonces) : Call → Nonces × Except Error String
  | .authorize p => verifier.authorize p nonces
  | .reserveProof started args outcome _ =>
    match nonces with
    -- The memory of a process is not shared.
    | .memory memory => (.memory memory, .error errUnavailable)
    | .coordinator database =>
      let (database, result) := Coordination.reserveProof started args outcome database
      (.coordinator database, result.map fun _ => args.subject)

/-- The fields of the proof that a request carries. -/
def proof (p : Presentation) : Option Fields :=
  match readFields verifier.scope p.request (p.body.getD []) with
  | .error _ => none
  | .ok (fields, _) => some fields

/-- The nonce of a device is kept until this instant. -/
def kept (nonces : Nonces) (key : String × String) : Option Time :=
  match nonces with
  | .memory memory => (memory.usedNonces[key.1]?.getD ∅)[key.2]?
  | .coordinator database =>
    (Coordination.nonceKey verifier.scope.number key.1 key.2).bind database.keptNonce

/-- The instant up to which a call drops nonces. -/
def instant (x : Served Nonces Call) : Time :=
  match x.before, x.call with
  | .memory _, .authorize p => p.now
  | .coordinator _, .authorize p => timestamptz p.started
  | _, .reserveProof started _ _ _ => timestamptz started

/-- The expiry of the nonce of a presentation. -/
def expires (x : Served Nonces Call) : Time :=
  match x.before, x.call with
  | .memory _, .authorize p => p.now + 2 * verifier.maxSkew
  | .coordinator _, .authorize p => timestamptz (timestamptz p.started + 2 * verifier.maxSkew)
  | _, .reserveProof started _ _ _ => started

/-- A proof of a device with a nonce is authorised. -/
def Authorised (x : Served Nonces Call) (key : String × String) : Prop :=
  ∃ p fields, x.call = .authorize p ∧ verifier.proof p = some fields ∧
    (fields.deviceID, fields.nonce) = key ∧ x.reply verifier.serve = .ok fields.deviceID

/-! ## The stores keep their nonces -/

variable {verifier} {deviceID nonce : String} {now : Time} {memory : Memory}

variable (verifier deviceID nonce now memory) in
/-- `reserveMemory` drops the nonces of the device that have expired, and it may add the nonce, which
is not among the others. It does so when it succeeds. -/
theorem reserveMemory_cases : ∃ nonces, (verifier.reserveMemory deviceID nonce now
    memory).1.usedNonces = memory.usedNonces.insert deviceID nonces ∧ ((nonces = prune now
    (memory.usedNonces[deviceID]?.getD ∅) ∧ (verifier.reserveMemory deviceID nonce now memory).2 ≠
    .ok ()) ∨ (nonce ∉ prune now (memory.usedNonces[deviceID]?.getD ∅) ∧ nonces = (prune now
    (memory.usedNonces[deviceID]?.getD ∅)).insert nonce (now + 2 * verifier.maxSkew))) := by
  unfold reserveMemory
  dsimp only
  split
  · exact ⟨_, rfl, .inl ⟨rfl, nofun⟩⟩
  next habsent =>
    split
    · exact ⟨_, rfl, .inl ⟨rfl, nofun⟩⟩
    · split
      · exact ⟨_, rfl, .inr ⟨habsent, rfl⟩⟩
      · exact ⟨_, rfl, .inr ⟨habsent, rfl⟩⟩

theorem kept_reserveMemory (hkept : verifier.kept (.memory
    memory) key = some expiry) (hlive : now < expiry) : verifier.kept (.memory
    (verifier.reserveMemory deviceID nonce now memory).1) key = some expiry := by
  obtain ⟨nonces, hnonces, hcases⟩ :=
    reserveMemory_cases verifier deviceID nonce now memory
  obtain ⟨device, text⟩ := key
  rw [kept, hnonces, Map.getElem?_insert]
  split
  next heq =>
    subst heq
    rcases hcases with ⟨rfl, -⟩ | ⟨habsent, rfl⟩
    · exact getElem?_prune hkept hlive
    · exact getElem?_insert_prune habsent hkept hlive
  next => exact hkept

theorem reserveMemory_eq_ok (h : (verifier.reserveMemory deviceID nonce now memory).2 = .ok ()) : (∀
    expiry, verifier.kept (.memory memory) (deviceID, nonce) = some expiry → expiry ≤ now) ∧
    verifier.kept (.memory (verifier.reserveMemory deviceID nonce now memory).1) (deviceID, nonce) =
    some (now + 2 * verifier.maxSkew) := by
  obtain ⟨nonces, hnonces, hcases⟩ :=
    reserveMemory_cases verifier deviceID nonce now memory
  rcases hcases with ⟨-, hrefused⟩ | ⟨habsent, rfl⟩
  · exact absurd h hrefused
  · exact ⟨notMem_prune.mp habsent, by simp [kept, hnonces]⟩

theorem authenticate_eq_ok (h : verifier.authenticate p = .ok (fields, revision)) :
    verifier.proof p = some fields ∧ verifier.InWindow p.now fields := by
  simp only [authenticate, bind_eq_ok] at h
  obtain ⟨-, -, ⟨read, signature⟩, hread, h⟩ := h
  split at h
  · cases h
  · simp only [bind_eq_ok, failIf_eq_ok, exists_and_left, exists_const, not_not] at h
    obtain ⟨-, -, -, hwindow, hfields⟩ := h
    cases hfields
    exact ⟨by rw [proof, hread], hwindow⟩

variable (verifier) in
theorem authorize_fst (p : Presentation) (nonces : Nonces) :
    (verifier.authorize p nonces).1 = nonces ∨
      ∃ deviceID nonce, (verifier.authorize p nonces).1 = (verifier.reserve deviceID nonce p nonces).1 := by
  unfold authorize
  split
  · exact .inl rfl
  next fields revision _ => grind

theorem authorize_eq_ok (h :
    verifier.authorize p nonces = (next, .ok deviceID)) : ∃ fields, verifier.proof p = some fields ∧
    verifier.InWindow p.now fields ∧ fields.deviceID = deviceID ∧ verifier.reserve fields.deviceID
    fields.nonce p nonces = (next, .ok ()) := by
  unfold authorize at h
  split at h
  · cases h
  next fields revision hauthentic => grind [authenticate_eq_ok]

theorem kept_reserve
    (hkept : verifier.kept nonces key = some expiry) (hlive : instant ⟨nonces, .authorize p⟩ <
    expiry) : verifier.kept (verifier.reserve deviceID nonce p nonces).1 key = some expiry := by
  cases nonces with
  | memory memory => exact kept_reserveMemory hkept hlive
  | coordinator database =>
    obtain ⟨stored, hstored, hkept⟩ := Option.bind_eq_some_iff.mp hkept
    exact Option.bind_eq_some_iff.mpr ⟨stored, hstored, Coordination.kept_reserveProof hkept hlive⟩

theorem reserve_eq_ok (h : verifier.reserve deviceID nonce
    p nonces = (next, .ok ())) : (∀ expiry, verifier.kept nonces (deviceID, nonce) = some expiry →
    expiry ≤ instant ⟨nonces, .authorize p⟩) ∧ verifier.kept next (deviceID, nonce) = some
    (verifier.expires ⟨nonces, .authorize p⟩) := by
  cases nonces with
  | memory memory =>
    obtain ⟨hnext, hok⟩ := Prod.ext_iff.mp h
    cases hnext
    exact reserveMemory_eq_ok hok
  | coordinator database =>
    obtain ⟨hnext, hok⟩ := Prod.ext_iff.mp h
    cases hnext
    have hok : (Coordination.reserveProof p.started (verifier.reservation deviceID nonce) p.outcome
        database).2 = .ok () := (mapError_eq_ok _ _ _).mp hok
    obtain ⟨key, hkey, hfresh, hstored⟩ :=
      Coordination.reserveProof_eq_ok (Prod.ext_iff.mpr ⟨rfl, hok⟩)
    have hkey : Coordination.nonceKey verifier.scope.number deviceID nonce = some key := hkey
    refine ⟨fun expiry hexpiry => ?_, ?_⟩
    · rw [kept, hkey, Option.bind_some] at hexpiry
      exact hfresh expiry hexpiry
    · exact Option.bind_eq_some_iff.mpr ⟨key, hkey, hstored⟩

/-- Both stores keep a nonce until it expires, and no proof is authorised while its nonce is kept. -/
theorem retains :
    Retains verifier.serve verifier.kept instant verifier.expires verifier.Authorised where
  keep x key expiry hkept hlive := by
    obtain ⟨nonces, call⟩ := x
    cases call with
    | authorize p =>
      rcases verifier.authorize_fst p nonces with hsame | ⟨deviceID, nonce, hreserve⟩
      · exact (congrArg (verifier.kept · key) hsame).trans hkept
      · exact (congrArg (verifier.kept · key) hreserve).trans (kept_reserve hkept hlive)
    | reserveProof started args outcome turn =>
      cases nonces with
      | memory memory => exact hkept
      | coordinator database =>
        obtain ⟨stored, hstored, hkept⟩ := Option.bind_eq_some_iff.mp hkept
        exact Option.bind_eq_some_iff.mpr
          ⟨stored, hstored, Coordination.kept_reserveProof hkept hlive⟩
  fresh x key expiry := by
    rintro ⟨p, fields, hcall, hproof, rfl, hreply⟩ hkept
    obtain ⟨nonces, call⟩ := x
    cases hcall
    obtain ⟨fields', hproof', -, -, hreserve⟩ := authorize_eq_ok (Prod.ext_iff.mpr ⟨rfl, hreply⟩)
    cases hproof.symm.trans hproof'
    exact (reserve_eq_ok hreserve).1 expiry hkept
  store x key := by
    rintro ⟨p, fields, hcall, hproof, rfl, hreply⟩
    obtain ⟨nonces, call⟩ := x
    cases hcall
    obtain ⟨fields', hproof', -, -, hreserve⟩ := authorize_eq_ok (Prod.ext_iff.mpr ⟨rfl, hreply⟩)
    cases hproof.symm.trans hproof'
    exact (reserve_eq_ok hreserve).2

/-! ## At most one authorisation -/

/-- The clock never goes back: every call reads it before it takes effect, and the calls take effect
in the order of the clock. -/
structure NondecreasingClock (history : List (Served Nonces Call)) : Prop where
  ordered : ∀ x ∈ history, x.call.Ordered
  turns : history.Pairwise fun y x => x.call.turn ≤ y.call.turn

theorem instant_le_turn (h : x.call.Ordered) : instant x ≤ x.call.turn := by
  obtain ⟨nonces, call⟩ := x
  cases call with
  | authorize p =>
    cases nonces with
    | memory memory => exact h.1
    | coordinator database => exact (timestamptz_le p.started).trans h.2
  | reserveProof started args outcome turn =>
    have hle : timestamptz started ≤ turn := (timestamptz_le started).trans h
    cases nonces with
    | memory | coordinator => exact hle

variable (verifier) in
/-- When the later of two calls presents the nonce of the earlier one again, its own timestamp has
left the window, or it takes effect before the nonce expires. -/
def Retained (y x : Served Nonces Call) : Prop :=
  ∀ p q, y.call = .authorize p → x.call = .authorize q →
    ∀ fields ∈ verifier.proof p, ∀ earlier ∈ verifier.proof q,
      fields.deviceID = earlier.deviceID → fields.nonce = earlier.nonce →
        proofTime fields + verifier.maxSkew < p.now ∨ p.turn < verifier.expires x

variable {init state : Nonces} {history : List (Served Nonces Call)}

theorem expired_of_authorised (hrun : Run verifier.serve init history state) (hclock :
    NondecreasingClock history) : history.Pairwise fun y x => ∀ key, verifier.Authorised y key →
    verifier.Authorised x key → verifier.expires x ≤ y.call.turn :=
  retains.expired hrun (fun x hx => instant_le_turn (hclock.ordered x hx)) hclock.turns

theorem inWindow_of_authorised (h : verifier.Authorised x key) (hp : x.call = .authorize p)
    (hproof : verifier.proof p = some fields) : verifier.InWindow p.now fields := by
  obtain ⟨q, read, hq, hread, -, hreply⟩ := h
  obtain ⟨nonces, call⟩ := x
  cases hp
  cases hq
  cases hproof.symm.trans hread
  obtain ⟨fields', hproof', hwindow, -⟩ := authorize_eq_ok (Prod.ext_iff.mpr ⟨rfl, hreply⟩)
  cases hproof.symm.trans hproof'
  exact hwindow

/-- No proof is authorised twice in a run whose nonces are retained. -/
theorem proof_authorised_once (hrun : Run verifier.serve init history state)
    (hclock : NondecreasingClock history) (hretained : history.Pairwise verifier.Retained) :
    history.Pairwise fun y x => ∀ key, ¬ (verifier.Authorised y key ∧ verifier.Authorised x key) := by
  refine (hretained.and (expired_of_authorised hrun hclock)).imp ?_
  rintro y x ⟨hkept, hexpired⟩ key ⟨hy, hx⟩
  have hlate := hexpired key hy hx
  have hauthorised := hy
  obtain ⟨p, fields, hp, hproof, rfl, -⟩ := hy
  obtain ⟨q, earlier, hq, hearlier, hkey, -⟩ := hx
  obtain ⟨hdevice, hnonce⟩ := Prod.mk.inj hkey
  -- The timestamp of an authorised proof is in the window, so the nonce must have been kept.
  have hwindow := inWindow_of_authorised hauthorised hp hproof
  rcases hkept p q hp hq fields hproof earlier hearlier hdevice.symm hnonce.symm with hleft | hearly
  · exact absurd (sub_le_iff_le_add.mp hwindow.1) (not_le.mpr hleft)
  · rw [hp] at hlate
    exact absurd hlate (not_le.mpr hearly)

/-! ## A proof at both ends of its window -/

/-- The session request that a device with a secret signs. -/
def sessionRequest (secret : List UInt8) (fields : Fields) : Request where
  method := "POST"
  path := proofPath .session
  rawQuery := ""
  contentLength := 0
  transferEncoding := []
  values name :=
    if name = "Device-Id" then [fields.deviceID]
    else if name = "Client-Id" then [fields.clientID]
    else if name = "X-Device-Timestamp" then [fields.timestamp]
    else if name = "X-Device-Nonce" then [fields.nonce]
    else if name = "X-Device-Signature" then
      [Base64.encodeToString (Sha256.hmac secret (utf8 (canonical .session fields).toList)).toList]
    else []

theorem authorize_of_authenticate (h : verifier.authenticate p = .ok (fields, revision))
    (hreserve : (verifier.reserve
    fields.deviceID fields.nonce p nonces).2 = .ok ()) (hallowed : p.allowed.stillAllowedAtRevision
    fields.deviceID revision = true) : verifier.authorize p nonces = ((verifier.reserve
    fields.deviceID fields.nonce p nonces).1, .ok fields.deviceID) := by
  rw [authorize, h]
  dsimp only
  rcases hr : verifier.reserve fields.deviceID fields.nonce p nonces with ⟨next, result⟩
  rw [hr] at hreserve
  cases hreserve
  simp [hallowed]

end ProofVerifier

namespace Example

def verifier : ProofVerifier := ⟨.session, 10 * second, 0, by decide, by decide⟩

def fields : Fields where
  deviceID := "box3-demo-001"
  clientID := "firmware"
  timestamp := "1700000000"
  nonce := "AAECAwQFBgcICQoLDA0ODw"

def record : DeviceRecord := ⟨List.replicate 32 7, "", "", false⟩

def registry : Registry := ⟨(∅ : Std.ExtTreeMap String DeviceRecord).insert fields.deviceID record, 1,
  zeroTime, 0⟩

/-- The device presents its proof while the clock shows `now`. -/
def present (now : Time) : Presentation where
  request := ProofVerifier.sessionRequest record.secret fields
  registry := registry
  profiles := registry
  allowed := registry
  now := now
  started := now
  turn := now

theorem readFields_present (now : Time) :
    readFields verifier.scope (present now).request ((present now).body.getD []) =
      .ok (fields, (Sha256.hmac record.secret (utf8 (canonical .session fields).toList)).toList) := by
  change readFields .session (ProofVerifier.sessionRequest record.secret fields) [] = _
  decide +kernel

theorem proof_present (now : Time) : verifier.proof (present now) = some fields := by
  rw [ProofVerifier.proof, readFields_present]

section

variable {now : Time} {memory : Memory} (hwindow : verifier.InWindow now fields)
  (hreserve : (verifier.reserveMemory fields.deviceID fields.nonce now memory).2 = .ok ())

include hwindow hreserve

theorem authorize_present :
    verifier.authorize (present now) (.memory memory) = (.memory (verifier.reserveMemory
    fields.deviceID fields.nonce now memory).1, .ok fields.deviceID) := by
  have hlookup : registry.lookupVersioned fields.deviceID = (some record, registry.revision) := by
    simp [Registry.lookupVersioned, Registry.Ready, registry]
  have hauthentic : verifier.authenticate (present now) = .ok (fields, registry.revision) := by
    have hscope : verifier.scope = .session := rfl
    rw [ProofVerifier.authenticate, readFields_present, hscope]
    simp [present, checkRequest, ProofVerifier.sessionRequest, isActionConsentProof, hlookup, failIf,
      record, ProofVerifier.ProfileMatches, hwindow, ok_bind, hscope]
  have hallowed : registry.stillAllowedAtRevision fields.deviceID registry.revision = true := by
    simp [Registry.stillAllowedAtRevision, Registry.Ready, registry, record]
  exact ProofVerifier.authorize_of_authenticate hauthentic hreserve hallowed

theorem authorised_present :
    verifier.Authorised ⟨.memory memory, .authorize (present now)⟩ (fields.deviceID, fields.nonce) :=
  ⟨present now, fields, rfl, proof_present now, rfl,
    congrArg Prod.snd (authorize_present hwindow hreserve)⟩

end

/-- The memory after the proof has been presented once. -/
def remembered (first : Time) : Memory :=
  (verifier.reserveMemory fields.deviceID fields.nonce first .empty).1

/-- The proof is presented to a new process at two instants. -/
def twice (first again : Time) : List (Served Nonces Call) :=
  [⟨.memory (remembered first), .authorize (present again)⟩, ⟨.memory .empty, .authorize (present first)⟩]

theorem run_twice (again : Time) (hwindow : verifier.InWindow first fields)
    (hreserve : (verifier.reserveMemory fields.deviceID fields.nonce first .empty).2 = .ok ()) :
    Run verifier.serve (.memory .empty) (twice first again)
      (verifier.serve (.memory (remembered first)) (.authorize (present again))).1 := by
  have hfirst : (verifier.serve (.memory .empty) (.authorize (present first))).1 =
      .memory (remembered first) := congrArg Prod.fst (authorize_present hwindow hreserve)
  have hrun : Run verifier.serve (.memory .empty) [⟨.memory .empty, .authorize (present first)⟩]
      (verifier.serve (.memory .empty) (.authorize (present first))).1 := .step _ .nil
  rw [hfirst] at hrun
  exact .step _ hrun

theorem nondecreasingClock_twice (h : first ≤ again) :
    ProofVerifier.NondecreasingClock (twice first again) where
  ordered := by simp [twice, Call.Ordered, present]
  turns := by simpa [twice, Call.turn, present] using h

/-- The first instant of the window of the proof. -/
def opens : Time := 1699999990 * second

/-- The last instant of the window of the proof. -/
def closes : Time := 1700000010 * second

theorem reserve_first (first : Time) :
    (verifier.reserveMemory fields.deviceID fields.nonce first .empty).2 = .ok () := by
  simp [ProofVerifier.reserveMemory, Memory.empty, maximumNonces]

end Example

/-- The same proof is authorised at the first and at the last instant of its window. -/
theorem proof_authorised_at_both_ends : ∃ history state, Run Example.verifier.serve (.memory .empty)
    history state ∧ ProofVerifier.NondecreasingClock history ∧ ¬ history.Pairwise fun y x => ∀ key,
    ¬ (Example.verifier.Authorised y key ∧ Example.verifier.Authorised x key) := by
  have hopens : Example.verifier.InWindow Example.opens Example.fields := by decide +kernel
  have hcloses : Example.verifier.InWindow Example.closes Example.fields := by decide +kernel
  -- The nonce expires at the last instant of the window, so it is dropped there.
  have hagain : (Example.verifier.reserveMemory Example.fields.deviceID Example.fields.nonce
      Example.closes (Example.remembered Example.opens)).2 = .ok () := by decide +kernel
  refine ⟨Example.twice Example.opens Example.closes, _,
    Example.run_twice _ hopens (Example.reserve_first _),
    Example.nondecreasingClock_twice (by decide), fun hpairwise => ?_⟩
  exact (List.pairwise_cons.mp hpairwise).1 _ List.mem_cons_self _
    ⟨Example.authorised_present hcloses hagain,
      Example.authorised_present hopens (Example.reserve_first _)⟩

/-- A proof that is presented at the instant of its timestamp and again a second later is authorised
once. -/
theorem proof_authorised_once_second : ∃ history state, Run Example.verifier.serve (.memory .empty)
    history state ∧ history.length = 2 ∧ history.Pairwise fun y x => ∀ key, ¬
    (Example.verifier.Authorised y key ∧ Example.verifier.Authorised x key) := by
  have hwindow : Example.verifier.InWindow (1700000000 * second) Example.fields := by decide +kernel
  have hrun := Example.run_twice (1700000001 * second) hwindow (Example.reserve_first _)
  refine ⟨_, _, hrun, rfl, ProofVerifier.proof_authorised_once hrun
    (Example.nondecreasingClock_twice (by decide)) ?_⟩
  refine List.pairwise_pair.mpr fun p q hp hq fields _ earlier _ _ _ => .inr ?_
  cases hp
  decide

end XiaozhiPlatform.Provisioning
