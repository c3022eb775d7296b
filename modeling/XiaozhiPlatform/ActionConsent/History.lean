import XiaozhiPlatform.ActionConsent.Store

/-!
# The history of a challenge

The calls of a run that succeeded determine the record of each challenge: `Tracks` reads the
registration, the decision and the consumption of a challenge off the history. With it,
`consent_once` says that a challenge is decided once and consumed once, in that order and before it
expires, by requests for exactly the action that was registered.
-/

namespace XiaozhiPlatform.ActionConsent.Store

open GoLib

/-! ## Successful calls -/

/-- The call registers the challenge. -/
def Registers (challenge : Challenge) (x : Served Store Call) : Prop :=
  ∃ now, x.call = .register challenge now ∧ x.reply serve = .done (.ok ())

/-- The call stores the decision for a challenge. -/
def Decides (id : String) (decision : Decision) (x : Served Store Call) : Prop :=
  ∃ actor request now record, x.call = .decide actor request now ∧ request.challengeID = id ∧
    request.decision = some decision ∧ x.reply serve = .record (.ok record)

/-- The call consumes the decision for a challenge. -/
def Consumes (id : String) (x : Served Store Call) : Prop :=
  ∃ request now record, x.call = .consume request now ∧ request.challengeID = id ∧
    x.reply serve = .record (.ok record)

/-- The record of a challenge is what the successful calls of a history have made of it. -/
structure Tracks (history : List (Served Store Call)) (id : String) (record : Option Record) :
    Prop where
  registered : ∀ challenge, (∃ x ∈ history, Registers challenge x ∧ challenge.challengeID = id) ↔
    record.map (·.challenge) = some challenge
  decided : ∀ decision, (∃ x ∈ history, Decides id decision x) ↔
    record.bind (·.decision) = some decision
  consumed : (∃ x ∈ history, Consumes id x) ↔ ∃ stored ∈ record, stored.consumedAt ≠ zeroTime

theorem tracks_nil (id : String) : Tracks [] id none := by
  constructor <;> simp

variable {history : List (Served Store Call)} {x : Served Store Call} {id : String}
  {record next : Option Record}

/-- What one more call makes of a record. -/
theorem Tracks.cons (h : Tracks history id record)
    (hregistered : ∀ challenge, next.map (·.challenge) = some challenge ↔
      (Registers challenge x ∧ challenge.challengeID = id) ∨ record.map (·.challenge) = some challenge)
    (hdecided : ∀ decision, next.bind (·.decision) = some decision ↔
      Decides id decision x ∨ record.bind (·.decision) = some decision)
    (hconsumed : (∃ stored ∈ next, stored.consumedAt ≠ zeroTime) ↔
      Consumes id x ∨ ∃ stored ∈ record, stored.consumedAt ≠ zeroTime) :
    Tracks (x :: history) id next where
  registered challenge := by rw [hregistered, ← h.registered]; simp only [List.mem_cons, exists_eq_or_imp]
  decided decision := by rw [hdecided, ← h.decided]; simp only [List.mem_cons, exists_eq_or_imp]
  consumed := by rw [hconsumed, ← h.consumed]; simp only [List.mem_cons, exists_eq_or_imp]

theorem Tracks.keep (h : Tracks history id record) (hreply : ¬ Writes x.call (x.reply serve)) :
    Tracks (x :: history) id record := by
  refine h.cons (fun challenge => ?_) (fun decision => ?_) ?_
  · refine ⟨Or.inr, fun h => h.resolve_left ?_⟩
    rintro ⟨⟨now, hcall, hdone⟩, -⟩
    rw [hcall, hdone] at hreply
    exact hreply trivial
  · refine ⟨Or.inr, fun h => h.resolve_left ?_⟩
    rintro ⟨actor, request, now, record, hcall, -, -, hdone⟩
    rw [hcall, hdone] at hreply
    exact hreply trivial
  · refine ⟨Or.inr, fun h => h.resolve_left ?_⟩
    rintro ⟨request, now, record, hcall, -, hdone⟩
    rw [hcall, hdone] at hreply
    exact hreply trivial

/-! ## One call -/

theorem tracks_serve (h : Tracks history id x.before.records[id]?) :
    Tracks (x :: history) id (x.after serve).records[id]? := by
  have heffect := effect_serve x.before x.call
  change Effect x.before.records x.call (x.reply serve) (x.after serve).records at heffect
  generalize (x.after serve).records = records at heffect ⊢
  generalize hreply : x.reply serve = reply at heffect
  generalize hcall : x.call = call at heffect
  cases heffect with
  | register challenge now habsent =>
    rw [Map.getElem?_insert]
    split
    next hid =>
      subst hid
      rw [habsent] at h
      refine h.cons (fun other => ?_) (fun decision => ?_) ?_
      · simp only [Registers, hcall, hreply]
        constructor
        · grind
        · grind
      · simp [Decides, hcall]
      · simp [Consumes, hcall]
    next hid =>
      refine h.cons (fun other => ⟨Or.inr, fun h => h.resolve_left ?_⟩) (fun decision => ?_) ?_
      · rintro ⟨⟨_, hother, -⟩, hotherID⟩
        rw [hcall] at hother
        cases hother
        exact hid hotherID
      · simp [Decides, hcall]
      · simp [Consumes, hcall]
  | decide actor request now record hfound hdecision hopen hlive howns hcarries =>
    rw [Map.getElem?_insert]
    split
    next hid =>
      subst hid
      rw [hfound] at h
      refine h.cons (fun other => ?_) (fun decision => ?_) ?_
      · simp [Registers, hcall]
      · simp [Decides, hcall, hreply, hopen]
      · simp [Consumes, hcall]
    next hid =>
      refine h.cons (fun other => ?_) (fun decision => ?_) ?_
      · simp [Registers, hcall]
      · simp [Decides, hcall, hid]
      · simp [Consumes, hcall]
  | consume request now record hfound hnow hdecided hfresh hlive hcarries =>
    rw [Map.getElem?_insert]
    split
    next hid =>
      subst hid
      rw [hfound] at h
      refine h.cons (fun other => ?_) (fun decision => ?_) ?_
      · simp [Registers, hcall]
      · simp [Decides, hcall]
      · simp [Consumes, hcall, hreply, hnow]
    next hid =>
      refine h.cons (fun other => ?_) (fun decision => ?_) ?_
      · simp [Registers, hcall]
      · simp [Decides, hcall]
      · simp [Consumes, hcall, hid]
  | keep _ _ hwrites => exact h.keep (by rw [hcall, hreply]; exact hwrites)

/-! ## Whole runs -/

variable {maxRecords : ℤ} {init state : Store}

theorem tracks_run (hnew : newStore maxRecords = .ok init) (hrun : Run serve init history state)
    (id : String) : Tracks history id state.records[id]? := by
  induction hrun with
  | nil =>
    obtain ⟨-, hinit⟩ := (failIf_bind_eq_ok _ _).mp hnew
    cases hinit
    exact tracks_nil id
  | step call _ ih => exact tracks_serve ih

theorem effect_served (x : Served Store Call) :
    ∃ records, Effect x.before.records x.call (x.reply serve) records :=
  ⟨_, effect_serve x.before x.call⟩

theorem registers_first {challenge : Challenge} (h : Registers challenge x) :
    x.before.records[challenge.challengeID]? = none := by
  obtain ⟨now, hcall, hreply⟩ := h
  obtain ⟨_, heffect⟩ := effect_served x
  rw [hcall, hreply] at heffect
  cases heffect with
  | register _ _ habsent => exact habsent
  | keep _ _ hwrites => exact absurd trivial hwrites

theorem decided_from {actor : Actor} {request : Request} {now : Time} {record : Record}
    (hcall : x.call = .decide actor request now) (hreply : x.reply serve = .record (.ok record)) :
    ∃ stored : Record, x.before.records[request.challengeID]? = some stored ∧
      stored.decision = none ∧ actor.Owns stored.challenge ∧ request.Carries stored.challenge := by
  obtain ⟨_, heffect⟩ := effect_served x
  rw [hcall, hreply] at heffect
  cases heffect with
  | decide _ _ _ stored hfound _ hopen _ howns hcarries => grind
  | keep _ _ hwrites => exact absurd trivial hwrites

theorem consumed_from {request : DeviceRequest} {now : Time} {record : Record} (hcall : x.call =
    .consume request now) (hreply : x.reply serve = .record (.ok record)) : ∃ stored : Record,
    x.before.records[request.challengeID]? = some stored ∧ stored.consumedAt = zeroTime ∧ now <
    stored.challenge.expiresAt ∧ request.Carries stored.challenge ∧ stored.decision ≠ none ∧
    record.decision = stored.decision := by
  obtain ⟨_, heffect⟩ := effect_served x
  rw [hcall, hreply] at heffect
  cases heffect with
  | consume _ _ stored hfound _ hdecided hfresh hlive hcarries => grind
  | keep _ _ hwrites => exact absurd trivial hwrites

theorem pending_from {actor : Actor} {now : Time} {shown : Record}
    (hcall : x.call = .pending actor now) (hreply : x.reply serve = .found (.ok (some shown))) :
    ∃ (id : String) (stored : Record), x.before.records[id]? = some stored ∧
      IsOpenFor stored actor now ∧ shown.challenge = stored.challenge := by
  obtain ⟨before, call⟩ := x
  subst hcall
  exact pending_eq_ok (Reply.found.inj hreply)

theorem Tracks.of_some {stored : Record} (h : Tracks history id (some stored)) :
    ∃ x ∈ history, Registers stored.challenge x ∧ stored.challenge.challengeID = id :=
  (h.registered stored.challenge).mpr rfl

/-- In every run a challenge is registered, decided and consumed at most once each. A decision is
for the registered action; a consumption comes after the decision and before the expiry, for the
registered action, and returns that decision. An owner is shown open challenges of their binding. -/
theorem consent_once (hnew : newStore maxRecords = .ok init) (hrun : Run serve init history state) :
    (∀ id, (history.Pairwise fun x y => ¬ ((∃ challenge, challenge.challengeID = id ∧ Registers
    challenge x) ∧ ∃ challenge, challenge.challengeID = id ∧ Registers challenge y)) ∧
    (history.Pairwise fun x y => ¬ ((∃ decision, Decides id decision x) ∧ ∃ decision, Decides id
    decision y)) ∧ history.Pairwise fun x y => ¬ (Consumes id x ∧ Consumes id y)) ∧ ∀ later x
    earlier, history = later ++ x :: earlier → (∀ actor request now record, x.call = .decide actor
    request now → x.reply serve = .record (.ok record) → ∃ challenge, (∃ y ∈ earlier, Registers
    challenge y) ∧ challenge.challengeID = request.challengeID ∧ actor.Owns challenge ∧
    request.Carries challenge) ∧ (∀ request now record, x.call = .consume request now → x.reply
    serve = .record (.ok record) → ∃ challenge, (∃ y ∈ earlier, Registers challenge y) ∧
    challenge.challengeID = request.challengeID ∧ request.Carries challenge ∧ now <
    challenge.expiresAt ∧ ∃ decision, (∃ y ∈ earlier, Decides request.challengeID decision y) ∧
    record.decision = some decision) ∧ ∀ actor now record, x.call = .pending actor now → x.reply
    serve = .found (.ok (some record)) → (∃ y ∈ earlier, Registers record.challenge y) ∧ now <
    record.challenge.expiresAt ∧ actor.Owns record.challenge ∧ ∀ y ∈ earlier, ¬ ∃ decision, Decides
    record.challenge.challengeID decision y := by
  refine ⟨fun id => ⟨?_, ?_, ?_⟩, ?_⟩
  · refine hrun.pairwise_of_first fun x past hpast hx y hy hearlier => ?_
    obtain ⟨challenge, rfl, hregisters⟩ := hx
    obtain ⟨other, hid, hother⟩ := hearlier
    have htracks := tracks_run hnew hpast challenge.challengeID
    rw [registers_first hregisters] at htracks
    cases (htracks.registered other).mp ⟨y, hy, hother, hid⟩
  · refine hrun.pairwise_of_first fun x past hpast hx y hy hearlier => ?_
    obtain ⟨_, actor, request, now, record, hcall, rfl, -, hreply⟩ := hx
    obtain ⟨decision, hdecides⟩ := hearlier
    obtain ⟨stored, hfound, hopen, -, -⟩ := decided_from hcall hreply
    have htracks := tracks_run hnew hpast request.challengeID
    rw [hfound] at htracks
    -- A decision in the past would still be on record.
    have hdecided := (htracks.decided decision).mp ⟨y, hy, hdecides⟩
    rw [Option.bind_some, hopen] at hdecided
    cases hdecided
  · refine hrun.pairwise_of_first fun x past hpast hx y hy hearlier => ?_
    obtain ⟨request, now, record, hcall, rfl, hreply⟩ := hx
    obtain ⟨stored, hfound, hfresh, -⟩ := consumed_from hcall hreply
    have htracks := tracks_run hnew hpast request.challengeID
    rw [hfound] at htracks
    obtain ⟨_, ⟨⟩, hconsumed⟩ := htracks.consumed.mp ⟨y, hy, hearlier⟩
    exact hconsumed hfresh
  · rintro later x earlier rfl
    have hpast := hrun.split.1
    refine ⟨?_, ?_, ?_⟩
    · intro actor request now record hcall hreply
      obtain ⟨stored, hfound, -, howns, hcarries⟩ := decided_from hcall hreply
      have htracks := tracks_run hnew hpast request.challengeID
      rw [hfound] at htracks
      obtain ⟨y, hy, hregisters, hid⟩ := htracks.of_some
      exact ⟨stored.challenge, ⟨y, hy, hregisters⟩, hid, howns, hcarries⟩
    · intro request now record hcall hreply
      obtain ⟨stored, hfound, -, hlive, hcarries, hdecided, hrecord⟩ := consumed_from hcall hreply
      have htracks := tracks_run hnew hpast request.challengeID
      rw [hfound] at htracks
      obtain ⟨y, hy, hregisters, hid⟩ := htracks.of_some
      obtain ⟨decision, hdecision⟩ := Option.ne_none_iff_exists'.mp hdecided
      exact ⟨stored.challenge, ⟨y, hy, hregisters⟩, hid, hcarries, hlive, decision,
        (htracks.decided decision).mpr hdecision, hrecord.trans hdecision⟩
    · intro actor now shown hcall hreply
      obtain ⟨id, stored, hfound, ⟨hopen, -, hlive, howns⟩, hshown⟩ := pending_from hcall hreply
      have htracks := tracks_run hnew hpast id
      rw [hfound] at htracks
      obtain ⟨z, hz, hregisters, hid⟩ := htracks.of_some
      rw [hshown, hid]
      refine ⟨⟨z, hz, hregisters⟩, hlive, howns, fun y hy => ?_⟩
      rintro ⟨decision, hdecides⟩
      have hdecided := (htracks.decided decision).mp ⟨y, hy, hdecides⟩
      rw [Option.bind_some, hopen] at hdecided
      cases hdecided

/-! ## An example -/

def exampleChallenge : Challenge where
  challengeID := "AAAAAAAAAAAAAAAAAAAAAA"
  deviceID := "device-1"
  ownerID := "owner-1"
  tenantID := "tenant-1"
  ownerRevision := 1
  sessionID := "session-1"
  requestID := 1
  action := ⟨true⟩
  expiresAt := 20 * second

def exampleRequest : DeviceRequest :=
  ⟨exampleChallenge.challengeID, "device-1", 1, "session-1", 1, ⟨true⟩⟩

def exampleStore : Store := ⟨1, ∅, ∅⟩

def exampleRegister : Call := .register exampleChallenge (5 * second)

def exampleDecide : Call :=
  .decide ⟨"owner-1", "tenant-1", "device-1", 1⟩ ⟨exampleRequest, some .deny⟩ (6 * second)

def exampleConsume : Call := .consume exampleRequest (7 * second)

/-- The states of a run in which a challenge is registered, denied and consumed. -/
def exampleRegistered : Store := (serve exampleStore exampleRegister).1

def exampleDecided : Store := (serve exampleRegistered exampleDecide).1

theorem run_example : Run serve exampleStore [⟨exampleDecided, exampleConsume⟩, ⟨exampleRegistered,
    exampleDecide⟩, ⟨exampleStore, exampleRegister⟩] (serve exampleDecided exampleConsume).1 :=
  .step exampleConsume (.step exampleDecide (.step exampleRegister .nil))

/-- The decision that the device of the example consumes is the one that its owner made. -/
theorem consent_once_denied : newStore 1 = .ok exampleStore ∧ ∃ record, (serve exampleDecided
    exampleConsume).2 = .record (.ok record) ∧ ∃ decision, (∃ y ∈ [⟨exampleRegistered,
    exampleDecide⟩, ⟨exampleStore, exampleRegister⟩], Decides exampleChallenge.challengeID decision
    y) ∧ record.decision = some decision := by
  have hreply : (serve exampleDecided exampleConsume).2 =
      .record (.ok ⟨exampleChallenge, some .deny, 6 * second, 7 * second⟩) := rfl
  have hnew : newStore 1 = .ok exampleStore := rfl
  obtain ⟨_, _, _, _, _, hdecision⟩ :=
    ((consent_once hnew run_example).2 [] ⟨exampleDecided, exampleConsume⟩ _ rfl).2.1 _ _ _ rfl hreply
  exact ⟨hnew, _, hreply, hdecision⟩

end XiaozhiPlatform.ActionConsent.Store
