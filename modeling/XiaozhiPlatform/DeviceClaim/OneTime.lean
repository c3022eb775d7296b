import XiaozhiPlatform.DeviceClaim.Transactions

/-!
# Claim codes are for one use

A claim code is printed once and is to bind its device once. `Ledger` is what the two stores have in
common for this question: the claim that a store holds for a code and the owner of a device.

Neither store keeps the rule by itself. `Confirm` does not look at the status of the claim, so a
claim that has bound its device binds it again after a release, until the claim expires; and a code
whose claim is gone may be registered anew. `Ledger.UsesOnce` is the condition on a call that the
rule needs.

- `Ledger.Lawful.pairwise_activates`: in a run whose calls use codes once, a code activates at most
  once.
- `code_used_once`: both stores are such ledgers.
- `code_used_twice`: a run of each store in which a code binds its device twice.
-/

namespace XiaozhiPlatform.DeviceClaim

open GoLib Auth Sql Database

/-! ## Ledgers -/

/-- A store of claims and owners that serves calls of the `OwnershipStore` interface. -/
structure Ledger (σ ι ο : Type) where
  serve : σ → ι → σ × ο
  /-- The call through the interface, if the input is one. -/
  call : ι → Option Call
  /-- The status of the claim that the store holds for a code. -/
  claim : σ → Digest → Option Status
  /-- Whether the input, as a `Begin`, finds a claim for the code. -/
  finds : σ → ι → Digest → Prop
  /-- The last ownership of a device. -/
  owner : σ → String → Option OwnershipEntry

namespace Ledger

variable {σ ι ο : Type} (ledger : Ledger σ ι ο)

def Owned (state : σ) (device : String) : Prop :=
  ∃ owner ∈ ledger.owner state device, owner.active = true
deriving Decidable

/-- A `Confirm` that presents a code and takes its device from unowned to owned. -/
def Activates (digest : Digest) (x : Served σ ι) : Prop :=
  ∃ device code now, ledger.call x.call = some (.confirm device code now) ∧
    claimDigest code = digest ∧ ¬ ledger.Owned x.before device ∧
    ledger.Owned (x.after ledger.serve) device

/-- A `Begin` that finds no claim for its code and leaves a new one. -/
def Registers (digest : Digest) (x : Served σ ι) : Prop :=
  (∃ userID tenantID deviceID code appNonce now,
    ledger.call x.call = some (.begin userID tenantID deviceID code appNonce now) ∧
      claimDigest code = digest) ∧
    ¬ ledger.finds x.before x.call digest ∧
    ledger.claim (x.after ledger.serve) digest = some .pending

/-- The call does not confirm an unowned device with a claim that is already bound, and does not
register a code that has activated a device before. -/
structure UsesOnce (earlier : List (Served σ ι)) (x : Served σ ι) : Prop where
  confirm : ∀ device code now, ledger.call x.call = some (.confirm device code now) →
    ¬ ledger.Owned x.before device → ledger.claim x.before (claimDigest code) ≠ some .bound
  register : ∀ digest, ledger.Registers digest x → ∀ y ∈ earlier, ¬ ledger.Activates digest y

/-- What a ledger guarantees for one call. -/
structure Lawful (I : σ → Prop) : Prop where
  invariant : ∀ state input, I state → I (ledger.serve state input).1
  /-- A pending claim was there before or is registered by the call. -/
  pending : ∀ x digest, I x.before → ledger.claim (x.after ledger.serve) digest = some .pending →
    ledger.claim x.before digest = some .pending ∨ ledger.Registers digest x
  /-- A device is activated by a claim that is not pending afterwards. -/
  activates : ∀ x digest, I x.before → ledger.Activates digest x →
    (ledger.claim x.before digest = some .pending ∨ ledger.claim x.before digest = some .bound) ∧
      ledger.claim (x.after ledger.serve) digest ≠ some .pending

variable {ledger} {I : σ → Prop} {init state : σ} {history : List (Served σ ι)}

/-- A code that has activated a device does not have a pending claim, so it does not activate a
device again. -/
theorem Lawful.pairwise_activates (h : ledger.Lawful I) (hrun : Run ledger.serve init history state)
    (hinit : I init) (huses : ∀ later x earlier, history = later ++ x :: earlier → ledger.UsesOnce
    earlier x) (digest : Digest) : (history.Pairwise fun x y => ¬ (ledger.Activates digest x ∧
    ledger.Activates digest y)) ∧ ((∃ x ∈ history, ledger.Activates digest x) → ledger.claim state
    digest ≠ some .pending) := by
  induction hrun with
  | nil => exact ⟨.nil, by simp⟩
  | @step history state input hrun ih =>
    have hI : I state := hrun.invariant h.invariant hinit
    have hproper : ledger.UsesOnce history ⟨state, input⟩ := huses [] _ history rfl
    obtain ⟨hpairs, hused⟩ := ih fun later x earlier hsplit =>
      huses (⟨state, input⟩ :: later) x earlier (by rw [hsplit, List.cons_append])
    -- The call cannot activate a device by a code that has activated one before.
    have hfirst : ledger.Activates digest ⟨state, input⟩ →
        ∀ y ∈ history, ¬ ledger.Activates digest y := by
      intro hactivates y hy hearlier
      have hnot := hused ⟨y, hy, hearlier⟩
      have hbound := ((h.activates _ digest hI hactivates).1).resolve_left hnot
      obtain ⟨device, code, now, hcall, rfl, hfree, -⟩ := hactivates
      exact hproper.confirm device code now hcall hfree hbound
    refine ⟨List.pairwise_cons.mpr ⟨fun y hy hboth => hfirst hboth.1 y hy hboth.2, hpairs⟩, ?_⟩
    rintro ⟨x, hx, hactivates⟩ hpending
    rcases List.mem_cons.mp hx with rfl | hx
    · exact (h.activates _ digest hI hactivates).2 hpending
    · rcases h.pending ⟨state, input⟩ digest hI hpending with hbefore | hregisters
      · grind
      · exact hproper.register digest hregisters x hx hactivates

/-- A run of four calls, of which the second and the fourth activate a device by one code. -/
theorem used_twice {device code : String} {now : Time} {first second third fourth : ι}
    (hsecond : ledger.call second = some (.confirm device code now))
    (hfourth : ledger.call fourth = some (.confirm device code now))
    (howned : ¬ ledger.Owned (ledger.serve init first).1 device ∧
      ledger.Owned (ledger.serve (ledger.serve init first).1 second).1 device ∧
      ¬ ledger.Owned (ledger.serve (ledger.serve (ledger.serve init first).1 second).1 third).1 device ∧
      ledger.Owned (ledger.serve (ledger.serve (ledger.serve (ledger.serve init first).1 second).1
        third).1 fourth).1 device) :
    ∃ history state, Run ledger.serve init history state ∧
      history.map Served.call = [fourth, third, second, first] ∧
      ¬ history.Pairwise fun x y => ¬ (ledger.Activates (claimDigest code) x ∧
        ledger.Activates (claimDigest code) y) := by
  obtain ⟨hfree, hbound, hreleased, hagain⟩ := howned
  refine ⟨_, _, .step fourth (.step third (.step second (.step first .nil))), rfl, fun hpairs => ?_⟩
  refine (List.pairwise_cons.mp hpairs).1 _ (List.mem_cons_of_mem _ List.mem_cons_self) ⟨?_, ?_⟩
  · exact ⟨device, code, now, hfourth, rfl, hreleased, hagain⟩
  · exact ⟨device, code, now, hsecond, rfl, hfree, hbound⟩

theorem usesOnce_pending {first second : ι} {a : σ} {userID tenantID deviceID code appNonce :
    String} {now later : Time} (hfirst : ledger.call first = some (.begin userID tenantID deviceID
    code appNonce now)) (hsecond : ledger.call second = some (.confirm deviceID code later)) (hclaim
    : ledger.claim a (claimDigest code) = some .pending) : ∀ after x earlier, [⟨a, second⟩, ⟨init,
    first⟩] = after ++ x :: earlier → ledger.UsesOnce earlier x := by
  intro after x earlier hsplit
  match after with
  | [] =>
    obtain ⟨rfl, rfl⟩ := List.cons.inj hsplit
    refine ⟨fun device other time hcall _ => ?_, fun digest hregisters => ?_⟩
    · grind
    · obtain ⟨⟨_, _, _, _, _, _, hcall, -⟩, -⟩ := hregisters
      exact absurd (hsecond.symm.trans hcall) (by simp)
  | [_] =>
    obtain ⟨-, htail⟩ := List.cons.inj hsplit
    obtain ⟨rfl, rfl⟩ := List.cons.inj htail
    refine ⟨fun device other time hcall _ => ?_, fun _ _ y hy => ?_⟩
    · grind
    · simp at hy
  | _ :: _ :: _ => simp at hsplit

end Ledger

/-! ## The two stores -/

/-- The reference store as a ledger. `Begin` sweeps the store first and finds only claims that have
not expired. -/
def referenceLedger : Ledger Store (Call × List UInt8) Reply where
  serve := Store.serve
  call input := some input.1
  claim store digest := (store.claim digest).map (·.status)
  finds store input digest :=
    match input.1 with
    | .begin _ _ _ _ _ now => ∃ record ∈ store.claim digest, now < record.expiresAt
    | _ => True
  owner store device := store.owners[device]?

/-- The PostgreSQL store as a ledger. -/
def postgresLedger : Ledger Database PostgresInput Reply where
  serve := serve
  call := PostgresInput.call
  claim db digest := (db.selectClaimByDigest digest).map (·.status)
  finds db _ digest := (db.selectClaimByDigest digest).isSome = true
  owner db device := db.selectOwner device

theorem lawful_reference : referenceLedger.Lawful Store.Indexed where
  invariant store input h := (store.effect_serve input).indexed h
  pending x digest h hpending := by
    obtain ⟨store, call, random⟩ := x
    obtain ⟨record, hclaim, hstatus⟩ := Option.map_eq_some_iff.mp hpending
    have hbefore : store.claim digest = some record →
        referenceLedger.claim store digest = some .pending := fun hsame =>
      Option.map_eq_some_iff.mpr ⟨record, hsame, hstatus⟩
    have hswept : ∀ now, (store.cleanup now).claim digest = some record →
        referenceLedger.claim store digest = some .pending := fun now hfilter => by
      rw [h.claim_cleanup, Option.filter_eq_some_iff] at hfilter
      exact hbefore hfilter.1
    have heffect : store.Effect call (store.serve (call, random)).1 :=
      store.effect_serve (call, random)
    change (store.serve (call, random)).1.claim digest = some record at hclaim
    generalize hnext : (store.serve (call, random)).1 = next at hclaim heffect
    cases heffect with
    | same | released => exact .inl (hbefore hclaim)
    | swept _ now | nonce _ _ now => exact .inl (hswept now hclaim)
    | @registered userID tenantID deviceID code appNonce now key added hadded hdigest hfresh hid =>
      rw [((h.cleanup now).useNonce key now).claim_addClaim hid] at hclaim
      split at hclaim
      next heq =>
        -- The sweep leaves no claim of the code, so none is alive.
        refine .inr ⟨⟨_, _, _, code, _, now, rfl, hdigest.symm.trans heq⟩, ?_, hpending⟩
        rintro ⟨old, hold, hlive⟩
        rw [← Store.claim_eq_none (h.cleanup now), heq, h.claim_cleanup, hold,
          Option.filter_some, if_pos (decide_eq_true hlive)] at hfresh
        simp at hfresh
      next hne => exact .inl (hswept now hclaim)
    | @confirmed deviceID code id now confirmed random' owners hentry hrecord =>
      change ((store.cleanup now).markBound id confirmed).claim digest = _ at hclaim
      rw [(h.cleanup now).claim_markBound hentry] at hclaim
      split at hclaim
      next heq => grind
      next hne => exact .inl (hswept now hclaim)
  activates x digest h hactivates := by
    obtain ⟨store, call, random⟩ := x
    obtain ⟨device, code, now, hcall, rfl, hfree, howned⟩ := hactivates
    obtain rfl : call = .confirm device code now := Option.some.inj hcall
    have heffect := store.effect_serve (.confirm device code now, random)
    change referenceLedger.Owned (store.serve (.confirm device code now, random)).1 device at howned
    change _ ∧ referenceLedger.claim (store.serve (.confirm device code now, random)).1 _ ≠ _
    generalize (store.serve (.confirm device code now, random)).1 = next at howned heffect
    -- A call that leaves the owners alone does not activate the device.
    have hsame : next.owners ≠ store.owners := fun heq => hfree (by
      simp only [Ledger.Owned, referenceLedger, heq] at howned
      exact howned)
    cases heffect with
    | same => exact absurd rfl hsame
    | swept | nonce => exact absurd Store.owners_cleanup hsame
    | @confirmed _ _ id now record random' owners hentry hrecord =>
      obtain ⟨named, hnamed, hdigest, hstatus⟩ := (h.cleanup now).entry _ _ hentry
      obtain rfl := Option.some.inj (hrecord.symm.trans hnamed)
      have hclaim : (store.cleanup now).claim (claimDigest code) = some record := by
        rw [Store.claim, hentry]
        exact hrecord
      constructor
      · rw [h.claim_cleanup, Option.filter_eq_some_iff] at hclaim
        have hbefore : referenceLedger.claim store (claimDigest code) = some record.status :=
          Option.map_eq_some_iff.mpr ⟨record, hclaim.1, rfl⟩
        rw [hbefore]
        cases hcase : record.status with
        | pending => exact .inl rfl
        | bound => exact .inr rfl
        | expired => exact absurd hcase hstatus
      · intro hpending
        obtain ⟨after, hafter, hstatus'⟩ := Option.map_eq_some_iff.mp hpending
        change ((store.cleanup now).markBound id record).claim _ = _ at hafter
        rw [(h.cleanup now).claim_markBound hentry, if_pos rfl] at hafter
        obtain rfl := Option.some.inj hafter
        simp at hstatus'

theorem Database.status_of_mem {db : Database} {row : ClaimRow} (h : row ∈ db.claims.rows) :
    row.status = .pending ∨ row.status = .bound := by
  have hcheck := db.claims.checked row h
    ⟨"ownership_claims_status_check", fun row => row.status = .pending || row.status = .bound⟩
    (by simp [claimsSchema])
  simpa using hcheck

theorem lawful_postgres : postgresLedger.Lawful fun _ => True where
  invariant _ _ _ := trivial
  pending x digest _ hpending := by
    obtain ⟨db, input⟩ := x
    obtain ⟨row, hclaim, hstatus⟩ := Option.map_eq_some_iff.mp hpending
    have hbefore : db.selectClaimByDigest digest = some row →
        postgresLedger.claim db digest = some .pending := fun hsame =>
      Option.map_eq_some_iff.mpr ⟨row, hsame, hstatus⟩
    have heffect := db.effect_serve input
    change (db.serve input).1.selectClaimByDigest digest = some row at hclaim
    generalize hcall : input.call = call at heffect
    generalize hnext : (db.serve input).1 = next at hclaim heffect
    cases heffect with
    | same => exact .inl (hbefore hclaim)
    | nonce | released => grind [selectClaimByDigest]
    | @registered userID tenantID deviceID code appNonce now _ added hadded hdigest hfresh hclaims =>
      rw [selectClaim_insert hclaims hfresh] at hclaim
      split at hclaim
      next heq =>
        refine .inr ⟨⟨_, _, _, code, _, now, hcall, hdigest.symm.trans heq⟩, ?_, hpending⟩
        simp [postgresLedger, ← heq, hfresh]
      next hne => exact .inl (hbefore hclaim)
    | confirmed _ _ _ hclaims => grind
    | pruned keep hclaims => grind [selectClaimByDigest_eq_some, List.mem_of_mem_filter]
  activates x digest _ hactivates := by
    obtain ⟨db, input⟩ := x
    obtain ⟨device, code, now, hcall, rfl, hfree, howned⟩ := hactivates
    have heffect := db.effect_serve input
    change input.call = _ at hcall
    rw [hcall] at heffect
    change postgresLedger.Owned (db.serve input).1 device at howned
    change _ ∧ postgresLedger.claim (db.serve input).1 _ ≠ _
    generalize (db.serve input).1 = next at howned heffect
    have hsame : next.owners ≠ db.owners := fun heq => hfree (by
      simp only [Ledger.Owned, postgresLedger, selectOwner, heq] at howned
      exact howned)
    cases heffect with
    | same => exact absurd rfl hsame
    | nonce _ _ howners => exact absurd howners hsame
    | @confirmed _ _ _ claim _ bindingID hclaim _ hclaims =>
      obtain ⟨hmem, -⟩ := selectClaimByDigest_eq_some.mp hclaim
      constructor
      · have hbefore : postgresLedger.claim db (claimDigest code) = some claim.status :=
          Option.map_eq_some_iff.mpr ⟨claim, hclaim, rfl⟩
        rw [hbefore]
        exact (status_of_mem hmem).imp (congrArg some) (congrArg some)
      · simp [postgresLedger, hclaims]

/-- In every run of either store whose calls use codes once, a code takes a device from unowned to
owned at most once. -/
theorem code_used_once (digest : Digest) : (∀ {ttl maxRecords : ℤ} {init store : Store} {history :
    List (Served Store (Call × List UInt8))}, newStore ttl maxRecords = .ok init → Run Store.serve
    init history store → (∀ later x earlier, history = later ++ x :: earlier →
    referenceLedger.UsesOnce earlier x) → history.Pairwise fun x y => ¬ (referenceLedger.Activates
    digest x ∧ referenceLedger.Activates digest y)) ∧ ∀ {db : Database} {history : List (Served
    Database PostgresInput)}, Run serve .empty history db → (∀ later x earlier, history =
    later ++ x :: earlier → postgresLedger.UsesOnce earlier x) → history.Pairwise fun x y => ¬
    (postgresLedger.Activates digest x ∧ postgresLedger.Activates digest y) :=
  ⟨fun hinit hrun huses =>
      (lawful_reference.pairwise_activates hrun (Store.indexed_newStore hinit) huses digest).1,
    fun hrun huses => (lawful_postgres.pairwise_activates hrun trivial huses digest).1⟩

/-! ## A code that is used twice -/

namespace Store

/-- A second `Confirm` with the code, with new random bytes. -/
def exampleAgain : Call × List UInt8 :=
  (.confirm "device-1" exampleCode 0, List.replicate 16 1)

end Store

/-! The same calls on the tables. -/

namespace Database

open Store (exampleCode exampleNonce)

def examplePostgres : PostgresStore := ⟨minute, 1, second, by decide, by decide, by decide⟩

/-- A call of the example, with its random bytes. -/
def exampleInput (call : Call) (random : List UInt8) : PostgresInput :=
  ⟨examplePostgres, some call, 0, 0, random, .reported⟩

def exampleBegin : PostgresInput :=
  exampleInput (.begin "user-1" "tenant-1" "device-1" exampleCode exampleNonce 0)
    (List.replicate 16 0 ++ [])

def exampleConfirm : PostgresInput :=
  exampleInput (.confirm "device-1" exampleCode 0)
    (List.replicate 16 0 ++ (List.replicate 16 0 ++ []))

def exampleRelease : PostgresInput :=
  exampleInput (.release "user-1" "tenant-1" "device-1" 0) (List.replicate 16 1 ++ [])

def exampleAgain : PostgresInput :=
  exampleInput (.confirm "device-1" exampleCode 0)
    (List.replicate 16 2 ++ (List.replicate 16 1 ++ []))

end Database

/-- The condition of `code_used_once` holds when the code of the example is confirmed once. -/
theorem code_used_once_bound : ([⟨(Store.exampleStore.serve Store.exampleBegin).1,
    Store.exampleConfirm⟩, ⟨Store.exampleStore, Store.exampleBegin⟩] : List (Served Store
    _)).Pairwise (fun x y => ¬ (referenceLedger.Activates (claimDigest Store.exampleCode) x ∧
    referenceLedger.Activates (claimDigest Store.exampleCode) y)) ∧ ([⟨(empty.serve
    exampleBegin).1, exampleConfirm⟩, ⟨.empty, exampleBegin⟩] : List
    (Served Database _)).Pairwise fun x y => ¬ (postgresLedger.Activates (claimDigest
    Store.exampleCode) x ∧ postgresLedger.Activates (claimDigest Store.exampleCode) y) := by
  constructor
  · exact (code_used_once _).1 (show newStore minute 1 = .ok Store.exampleStore from rfl)
      (.step _ (.step _ .nil)) (Ledger.usesOnce_pending rfl rfl (by decide +kernel))
  · exact (code_used_once _).2 (.step _ (.step _ .nil))
      (Ledger.usesOnce_pending rfl rfl (by decide +kernel))

/-- A claim code binds its device again after a release, in either store. -/
theorem code_used_twice : (∃ history store, Run Store.serve Store.exampleStore history store ∧
    history.map Served.call = [Store.exampleAgain, Store.exampleRelease, Store.exampleConfirm,
    Store.exampleBegin] ∧ ¬ history.Pairwise fun x y => ¬ (referenceLedger.Activates (claimDigest
    Store.exampleCode) x ∧ referenceLedger.Activates (claimDigest Store.exampleCode) y)) ∧ ∃ history
    db, Run serve .empty history db ∧ history.map Served.call = [exampleAgain,
    exampleRelease, exampleConfirm, exampleBegin] ∧ ¬ history.Pairwise
    fun x y => ¬ (postgresLedger.Activates (claimDigest Store.exampleCode) x ∧
    postgresLedger.Activates (claimDigest Store.exampleCode) y) := by
  constructor
  · exact referenceLedger.used_twice rfl rfl (by decide +kernel)
  · exact postgresLedger.used_twice rfl rfl (by decide +kernel)

end XiaozhiPlatform.DeviceClaim
