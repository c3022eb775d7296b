import XiaozhiPlatform.ActionConsent.Postgres
import XiaozhiPlatform.DeviceClaim.OneTime

/-!
# A consent is consumed under the ownership it was registered for

The consent store compares the current row of `device_owners` with the challenge when it registers
the challenge and when it consumes it, but not in between. The revision of that row is a version:
the device claim store raises it with every change of the ownership. A challenge that is found
under its revision again has therefore been under one and the same ownership all the time.

- `exists_registration`: every challenge on record comes from a call that registered it.
- `consumed_under_binding`: the ownership between registration and consumption.
- `ownership_never_returns`.
-/

namespace XiaozhiPlatform.ActionConsent.Database

open GoLib Sql
open DeviceClaim (OwnershipEntry revision)

variable {db next : Database} {id : String} {row : ChallengeRow}

/-! ## One call -/

section

variable {call : Call} (h : db.ConsentEffect call next)

include h

theorem ConsentEffect.selectChallenge (hrow :
    next.selectChallenge id = some row) : (∃ old, db.selectChallenge id = some old ∧ old.challenge =
    row.challenge) ∨ ∃ challenge sent now, call = .register challenge sent ∧ row = challenge.row now
    ∧ db.selectChallenge id = none ∧ IsCurrentOwner (db.selectOwner challenge.deviceID)
    challenge.ownerID challenge.tenantID challenge.ownerRevision := by
  cases h with
  | keep _ _ hchallenges =>
    rw [Database.selectChallenge, hchallenges] at hrow
    exact Or.inl ⟨row, hrow, rfl⟩
  | registered challenge sent now _ howner hchallenges =>
    rw [Database.selectChallenge, Table.select_append hchallenges, Option.or_eq_some_iff] at hrow
    rcases hrow with hold | ⟨hnone, hnew⟩
    · exact Or.inl ⟨row, hold, rfl⟩
    · have heq : row = challenge.row now := by
        split at hnew
        · exact (Option.some.inj hnew).symm
        · cases hnew
      exact Or.inr ⟨challenge, sent, now, rfl, heq, hnone, howner⟩
  | changed _ p f hf _ hchallenges =>
    -- Only the decision and the consumption of a row change, so it keeps its key.
    have hkey : ∀ row, (f row).challengeID = row.challengeID := fun row =>
      congrArg Challenge.challengeID (hf row)
    rw [Database.selectChallenge, Table.select_update hchallenges hkey] at hrow
    obtain ⟨old, hold, rfl⟩ := Option.map_eq_some_iff.mp hrow
    refine Or.inl ⟨old, hold, ?_⟩
    split
    · exact (hf old).symm
    · rfl

theorem ConsentEffect.selectChallenge_some (hrow : db.selectChallenge id = some row) :
    ∃ new, next.selectChallenge id = some new ∧ new.challenge = row.challenge := by
  cases h with
  | keep _ _ hchallenges =>
    refine ⟨row, ?_, rfl⟩
    rw [Database.selectChallenge, hchallenges]
    exact hrow
  | registered challenge sent now _ howner hchallenges =>
    refine ⟨row, ?_, rfl⟩
    rw [Database.selectChallenge, Table.select_append hchallenges]
    exact Option.or_eq_some_iff.mpr (Or.inl hrow)
  | changed _ p f hf _ hchallenges =>
    have hkey : ∀ row, (f row).challengeID = row.challengeID := fun row =>
      congrArg Challenge.challengeID (hf row)
    refine ⟨if p row then f row else row, ?_, ?_⟩
    · rw [Database.selectChallenge, Table.select_update hchallenges hkey]
      exact Option.map_eq_some_iff.mpr ⟨row, hrow, rfl⟩
    · grind

theorem ConsentEffect.toDatabase : next.toDatabase = db.toDatabase := by
  cases h with
  | keep _ htables | registered _ _ _ htables | changed _ _ _ _ htables => exact htables

end

theorem versioned_owners (device : String) :
    Versioned Database.serve (fun _ => True) (fun db => db.selectOwner device) revision where
  invariant _ _ _ := trivial
  step db input _ := by
    cases input with
    | ownership input =>
      exact (DeviceClaim.Database.versioned_owners device).step db.toDatabase input trivial
    | consent input =>
      left
      exact congrArg (fun tables => DeviceClaim.Database.selectOwner tables device)
        (effect_serveConsent db input).toDatabase

/-! ## Whole runs -/

/-- The call puts the challenge on record, whether or not its client learns so. -/
def Registers (challenge : Challenge) (y : Served Database SharedInput) : Prop :=
  (∃ input sent, y.call = .consent input ∧ input.call = .register challenge sent) ∧
    y.before.selectChallenge challenge.challengeID = none ∧
    ((y.after serve).selectChallenge challenge.challengeID).isSome = true

variable {init : Database} {history : List (Served Database SharedInput)}
  {x y : Served Database SharedInput} {challenge : Challenge}

theorem selectChallenge_serve (input : SharedInput) (hrow : db.selectChallenge id = some row) :
    ∃ new, (db.serve input).1.selectChallenge id = some new ∧ new.challenge = row.challenge := by
  cases input with
  | ownership input => exact ⟨row, hrow, rfl⟩
  | consent input => exact (effect_serveConsent db input).selectChallenge_some hrow

theorem selectChallenge_run (hrun : Run serve init history db) (hrow : init.selectChallenge id =
    some row) : ∃ new, db.selectChallenge id = some new ∧ new.challenge = row.challenge := by
  induction hrun with
  | nil => exact ⟨row, hrow, rfl⟩
  | step input _ ih =>
    obtain ⟨new, hnew, heq⟩ := ih
    obtain ⟨last, hlast, heq'⟩ := selectChallenge_serve input hnew
    exact ⟨last, hlast, heq'.trans heq⟩

theorem registers_of_new (hbefore : x.before.selectChallenge id = none)
    (hafter : (x.after serve).selectChallenge id = some row) :
    ∃ challenge, challenge.challengeID = id ∧ Registers challenge x := by
  obtain ⟨before, call⟩ := x
  cases call with
  | ownership input =>
    have hsame : before.selectChallenge id = some row := hafter
    cases hbefore.symm.trans hsame
  | consent input =>
    rcases (effect_serveConsent before input).selectChallenge hafter with
      ⟨old, hold, -⟩ | ⟨challenge, sent, now, hcall, rfl, -, -⟩
    · cases hbefore.symm.trans hold
    · have hid : (challenge.row now).challengeID = id := key_of_find? hafter
      subst hid
      exact ⟨challenge, rfl, ⟨input, sent, rfl, hcall⟩, hbefore,
        Option.isSome_iff_exists.mpr ⟨_, hafter⟩⟩

/-- Every challenge on record comes from a call that registered it. -/
theorem exists_registration (hrun : Run serve .empty history db) (hrow : db.selectChallenge id =
    some row) : ∃ y ∈ history, ∃ challenge, challenge.challengeID = id ∧ Registers challenge y := by
  induction hrun generalizing row with
  | nil => cases hrow
  | @step history before input _ ih =>
    cases hbefore : before.selectChallenge id with
    | none =>
      exact ⟨⟨before, input⟩, List.mem_cons_self, registers_of_new hbefore hrow⟩
    | some old => grind

/-- A challenge is registered under the ownership in force, and its row says so. -/
theorem Registers.owner (h : Registers challenge y) : IsCurrentOwner (y.before.selectOwner
    challenge.deviceID) challenge.ownerID challenge.tenantID challenge.ownerRevision ∧ ∃ now,
    (y.after serve).selectChallenge challenge.challengeID = some (challenge.row now) := by
  obtain ⟨before, call⟩ := y
  obtain ⟨⟨input, sent, hconsent, hregister⟩, hbefore, hafter⟩ := h
  obtain rfl : call = .consent input := hconsent
  obtain ⟨row, hrow⟩ := Option.isSome_iff_exists.mp hafter
  rcases (effect_serveConsent before input).selectChallenge hrow with
    ⟨old, hold, -⟩ | ⟨other, _, now, hcall, rfl, -, howner⟩
  · cases hbefore.symm.trans hold
  · grind

theorem consumed_from (hcall : x.call = .consent input)
    (hconsume : input.call = .consume request sent)
    (hreply : x.reply serve = .consent (.record (.ok record))) : ∃ row, x.before.selectChallenge
    request.challengeID = some row ∧ IsCurrentOwner (x.before.selectOwner row.deviceID) row.ownerID
    row.tenantID row.ownerRevision := by
  obtain ⟨before, call⟩ := x
  obtain ⟨store, call', clock, locked, outcome⟩ := input
  subst hcall hconsume
  have hreply' : (before.serveConsent ⟨store, .consume request sent, clock, locked, outcome⟩).2 =
      .record (.ok record) := SharedReply.consent.inj hreply
  simp only [serveConsent] at hreply'
  split at hreply'
  · cases hreply'
  have hok : (runConsent outcome (fun db => db.consumeChallenge request (timestamptz clock))
      before).2 = .ok record := Reply.record.inj hreply'
  obtain ⟨-, hbody⟩ := runTransaction_eq_ok.mp (Prod.ext_iff.mpr ⟨rfl, hok⟩)
  obtain ⟨row, hrow, howner, -⟩ := consumeChallenge_ok hbody
  exact ⟨row, hrow, howner⟩

/-- The challenge of a successful consumption was registered before, and from its registration to
its consumption the device was in every state under the one ownership that was registered. -/
theorem consumed_under_binding {later earlier : List (Served Database SharedInput)} {input :
    ConsentInput} {request : DeviceRequest} {sent : Time} {record : Record} (hrun : Run serve .empty
    history db) (hsplit : history = later ++ x :: earlier) (hcall : x.call = .consent input)
    (hconsume : input.call = .consume request sent) (hreply : x.reply serve = .consent (.record (.ok
    record))) : (∃ y ∈ earlier, ∃ challenge, challenge.challengeID = request.challengeID ∧ Registers
    challenge y) ∧ ∀ between y past challenge, earlier = between ++ y :: past →
    challenge.challengeID = request.challengeID → Registers challenge y → ∃ owner : OwnershipEntry,
    owner.active = true ∧ owner.ownerID = challenge.ownerID ∧ owner.tenantID = challenge.tenantID ∧
    owner.bindingRevision = challenge.ownerRevision ∧ (∀ z ∈ x :: (between ++ [y]),
    z.before.selectOwner challenge.deviceID = some owner) ∧ (x.after serve).selectOwner
    challenge.deviceID = some owner := by
  subst hsplit
  obtain ⟨hearlier, -⟩ := hrun.split
  obtain ⟨row, hrow, hcurrent⟩ := consumed_from hcall hconsume hreply
  refine ⟨exists_registration hearlier hrow, ?_⟩
  rintro between y past challenge rfl hid hregisters
  obtain ⟨-, hbetween⟩ := hearlier.split
  obtain ⟨hfirst, now, hnew⟩ := hregisters.owner
  -- The row that is consumed is the one that was registered.
  obtain ⟨last, hlast, heq⟩ := selectChallenge_run hbetween hnew
  rw [hid, hrow] at hlast
  obtain rfl := Option.some.inj hlast
  have hdevice : row.deviceID = challenge.deviceID := congrArg Challenge.deviceID heq
  have hrevision : row.ownerRevision = challenge.ownerRevision := congrArg Challenge.ownerRevision heq
  rw [hdevice, hrevision] at hcurrent
  obtain ⟨owner, howner, hactive, hownerID, htenantID, hbinding⟩ := hfirst
  obtain ⟨final, hfinal, -, -, -, hbinding'⟩ := hcurrent
  -- Both ownerships have the registered revision, so the row has not moved.
  have hsegment : Run serve y.before (between ++ [y]) x.before :=
    run_append.mpr ⟨y.after serve, .step y.call .nil, hbetween⟩
  have hversion : revision (x.before.selectOwner challenge.deviceID) =
      revision (y.before.selectOwner challenge.deviceID) := by
    grind [Option.mem_def, revision]
  obtain ⟨hend, hstates⟩ := (versioned_owners challenge.deviceID).eq_between hsegment trivial hversion
  refine ⟨owner, hactive, hownerID, htenantID, hbinding, ?_, ?_⟩
  · intro z hz
    rcases List.mem_cons.mp hz with rfl | hz
    · exact hend.trans howner
    · exact (hstates z hz).trans howner
  · obtain ⟨before, call⟩ := x
    subst hcall
    have htables := (effect_serveConsent before input).toDatabase
    have hsame : (before.serveConsent input).1.selectOwner challenge.deviceID =
        before.selectOwner challenge.deviceID :=
      congrArg (fun tables => DeviceClaim.Database.selectOwner tables challenge.deviceID) htables
    exact hsame.trans (hend.trans howner)

/-- In every interleaving of the calls of both stores, from any tables on, the ownership of a device
at a later moment is the one of an earlier moment or has a larger revision. -/
theorem ownership_never_returns (init : Database) (calls : List SharedInput) (device : String) :
    (replay serve init calls).1.Pairwise fun y x =>
      y.before.selectOwner device = x.before.selectOwner device ∨
        revision (x.before.selectOwner device) < revision (y.before.selectOwner device) :=
  (versioned_owners device).pairwise (run_replay serve init calls) trivial

/-! ## An example -/

section Example

def exampleChallenge : Challenge :=
  ⟨"AAAAAAAAAAAAAAAAAAAAAA", "device-1", "user-1", "tenant-1", 1, "session-1", 1, ⟨true⟩, 20 * second⟩

def exampleRequest : DeviceRequest :=
  ⟨"AAAAAAAAAAAAAAAAAAAAAA", "device-1", 1, "session-1", 1, ⟨true⟩⟩

open DeviceClaim.Database (examplePostgres) in
/-- A consent call of the example, at the fifth second. -/
def exampleInput (call : Call) : ConsentInput :=
  ⟨⟨1, second, examplePostgres.maxRecords_valid, examplePostgres.operationTimeout_valid⟩, call,
    5 * second, [], .reported⟩

def exampleRegister : ConsentInput := exampleInput (.register exampleChallenge (5 * second))

def exampleDecide : ConsentInput :=
  exampleInput (.decide ⟨"user-1", "tenant-1", "device-1", 1⟩ ⟨exampleRequest, some .approve⟩
    (5 * second))

def exampleConsume : ConsentInput := exampleInput (.consume exampleRequest (5 * second))

/-- The calls before the last one, newest first. -/
def exampleCalls : List SharedInput :=
  [.consent exampleDecide, .consent exampleRegister,
    .ownership DeviceClaim.Database.exampleConfirm, .ownership DeviceClaim.Database.exampleBegin]

/-- A device is bound, and its owner approves an action that the device then takes. -/
theorem consumed_under_binding_approved : ∃ (history : List (Served Database SharedInput)) (x :
    Served Database SharedInput) (record : Record), (∃ db, Run serve .empty (x :: history) db) ∧
    x.call = .consent exampleConsume ∧ x.reply serve = .consent (.record (.ok record)) ∧ ∃ y ∈
    history, ∃ challenge, challenge.challengeID = exampleRequest.challengeID ∧ Registers challenge y
    := by
  have hrun := run_replay serve .empty (.consent exampleConsume :: exampleCalls)
  have hreply : (⟨(replay serve .empty exampleCalls).2, .consent exampleConsume⟩ : Served
      Database SharedInput).reply serve = .consent (.record (.ok ⟨exampleChallenge, some .approve,
      5 * second, 5 * second⟩)) := by decide +kernel
  exact ⟨_, _, _, ⟨_, hrun⟩, rfl, hreply,
    (consumed_under_binding hrun (List.nil_append _).symm rfl rfl hreply).1⟩

end Example

end XiaozhiPlatform.ActionConsent.Database
