import XiaozhiPlatform.Gateway.SynthesisRuns

/-!
# How a synthesis request ends

The protocol promises exactly one `stop` or `error` event for a request that is not aborted. The
gateway keeps that promise as long as nothing takes the context of the request away from it:
`Orderly` excludes a deadline that passes while the request is in the slot, a failure that looks
like a cancellation, and an id that a running goroutine already has. `Standing` follows each
request through such a run; `tts_request_ends_once` reads the promise off, and
`timeout_sends_no_terminal` is the run in which a synthesis times out.
-/

namespace XiaozhiPlatform.VoiceConnection

open GoLib Protocol Connection

/-- What a goroutine has sent, newest message first. -/
def messagesOf (n : ℕ) (wire : List Sent) : List Message :=
  (wire.filter fun sent => sent.writer = some n).map Sent.message

/-- One terminal event with the ids of the request, and nothing after it. -/
def EndedOnce (sessionID : String) (requestID : UInt32) (messages : List Message) : Prop :=
  ∃ event rest, messages = .tts event :: rest ∧ event.state.isTerminal = true ∧
    event.sessionID = sessionID ∧ event.requestID = requestID ∧
    ∀ message ∈ rest, message.isTerminal = false

/-- The device aborts a request. -/
def Aborts (n : ℕ) (x : Served Connection Call) : Prop :=
  match x.call with
  | .abort sessionID requestID =>
    sessionID = x.before.sessionID ∧ x.before.active = some ⟨requestID, n⟩
  | _ => False

instance (n : ℕ) (x : Served Connection Call) : Decidable (Aborts n x) := by
  unfold Aborts
  cases x with
  | mk c call => cases call <;> infer_instance

instance (input : Input) : Decidable input.Dropped := by
  unfold Input.Dropped
  split <;> infer_instance

/-- No deadline passes for the request in the slot, and no failure of it looks like the end of a
request that was aborted. -/
def Undisturbed (x : Served Connection Call) : Prop :=
  match x.call with
  | .deadline n => ¬ x.before.InSlot n
  | .step n input => x.before.InSlot n → ¬ input.Dropped
  | _ => True

instance (x : Served Connection Call) : Decidable (Undisturbed x) := by
  unfold Undisturbed
  cases x with
  | mk c call => cases call <;> infer_instance

/-- The calls that a request in the slot survives. -/
def Orderly (x : Served Connection Call) : Prop := Fresh x ∧ Undisturbed x
deriving Decidable

/-! ## Messages of one goroutine -/

@[simp]
theorem messagesOf_nil (n : ℕ) : messagesOf n [] = [] := rfl

theorem messagesOf_append (n : ℕ) (newer older : List Sent) :
    messagesOf n (newer ++ older) = messagesOf n newer ++ messagesOf n older := by
  simp [messagesOf]

@[simp]
theorem messagesOf_own (n : ℕ) (message : Message) (wire : List Sent) :
    messagesOf n (⟨some n, message⟩ :: wire) = message :: messagesOf n wire := by
  simp [messagesOf]

variable {n : ℕ}

theorem messagesOf_other (h : ∀ sent ∈ newer, sent.writer ≠ some n)
    (older : List Sent) : messagesOf n (newer ++ older) = messagesOf n older := by
  have hnone : messagesOf n newer = [] := by
    rw [messagesOf, List.filter_eq_nil_iff.mpr, List.map_nil]
    exact fun sent hsent => by simpa using h sent hsent
  rw [messagesOf_append, hnone, List.nil_append]

theorem messagesOf_notice (n : ℕ) (messages : List Message) (wire : List Sent) :
    messagesOf n (messages.map (Sent.mk none) ++ wire) = messagesOf n wire := by
  grind [messagesOf_other]

variable {c : Connection}

theorem Sound.isActive (h : Sound c) (hslot : c.InSlot n)
    (hs : c.syntheses[n]? = some s) : c.IsActive s.requestID := by
  obtain ⟨active, hheld, rfl⟩ := Option.map_eq_some_iff.mp hslot
  obtain ⟨-, t, ht, hid⟩ := h.slot active hheld
  cases hs.symm.trans ht
  exact isActive_iff.mpr ⟨active, hheld, hid.symm⟩

theorem Sound.messagesOf_new (h : Sound c) : messagesOf c.syntheses.length c.wire = [] := by
  have hothers : ∀ sent ∈ c.wire, sent.writer ≠ some c.syntheses.length :=
    fun sent hsent hn => Nat.lt_irrefl _ (h.writers sent hsent _ hn)
  simpa using messagesOf_other hothers []

/-! ## Where a request stands -/

/-- Where a request stands after a run without disturbance: it is in the slot and has not ended, or
it was aborted, or it has ended with one terminal event. -/
inductive Standing (history : List (Served Connection Call)) (c : Connection) (n : ℕ)
    (s : Synthesis) : Prop
  | speaking (slot : c.InSlot n) (live : s.ended = none) (running : s.stage ≠ .done)
      (quiet : ∀ message ∈ messagesOf n c.wire, message.isTerminal = false)
  | aborted (free : ¬ c.InSlot n) (x : Served Connection Call) (mem : x ∈ history)
      (aborts : Aborts n x)
  | ended (free : ¬ c.InSlot n) (done : s.stage = .done)
      (once : EndedOnce c.sessionID s.requestID (messagesOf n c.wire))

namespace Standing

variable {history : List (Served Connection Call)} {c d : Connection} {n : ℕ} {s t : Synthesis}

/-- A call that does not touch the request: the slot has it as before, its goroutine has got no
further, and nothing was sent for it. -/
theorem keep (h : Standing history c n s) (x : Served Connection Call) (hslot : d.InSlot n ↔
    c.InSlot n) (hsession : d.sessionID = c.sessionID) (hmessages : messagesOf n d.wire = messagesOf
    n c.wire) (hid : t.requestID = s.requestID) (hstage : t.stage = s.stage) (hended : c.InSlot n →
    t.ended = s.ended) : Standing (x :: history) d n t := by
  cases h with
  | speaking slot live running quiet =>
    exact .speaking (hslot.mpr slot) ((hended slot).trans live) (hstage ▸ running)
      (hmessages ▸ quiet)
  | aborted free y mem aborts =>
    exact .aborted (fun h => free (hslot.mp h)) y (List.mem_cons_of_mem _ mem) aborts
  | ended free done once =>
    refine .ended (fun h => free (hslot.mp h)) (hstage.trans done) ?_
    rwa [hsession, hid, hmessages]

end Standing

variable {d : Connection} {call : Call}

theorem Effect.sessionID (h : Effect c call d) : d.sessionID = c.sessionID := by
  cases h <;> rfl

theorem Effect.messagesOf (h : Effect c call d) (hcall : ∀ input, call ≠ .step n input) :
    VoiceConnection.messagesOf n d.wire = VoiceConnection.messagesOf n c.wire := by
  obtain ⟨newer, hwire, hnewer⟩ := h.wire
  rw [hwire]
  refine messagesOf_other (fun sent hsent hn => ?_) c.wire
  obtain ⟨⟨input, hstep⟩, -⟩ := hnewer sent hsent n hn
  exact hcall input hstep

variable {history : List (Served Connection Call)} {input : Input}

theorem Standing.step_other (hc : ∀ s, c.syntheses[m]? = some s → Standing history c m s) (h
    : Effect c (.step n input) d) (hsound : Sound c) (hdistinct : Distinct c) (hm : m ≠ n) (ht :
    d.syntheses[m]? = some t) : Standing (⟨c, .step n input⟩ :: history) d m t := by
  have hothers := h.others hsound hdistinct hm
  rw [hothers.2] at ht
  refine (hc t ht).keep _ ⟨fun hslot => ?_, hothers.1⟩ h.sessionID (h.messagesOf ?_) rfl rfl
    fun _ => rfl
  · rcases h.slot_cases with ⟨hsame, -⟩ | ⟨hnone, -⟩ | ⟨-, _, _, hcall, -⟩
    · rwa [Connection.InSlot, ← hsame]
    · rw [Connection.InSlot, hnone] at hslot
      cases hslot
    · cases hcall
  · rintro other ⟨⟩
    exact hm rfl

theorem Standing.step_own (hc : ∀ s, c.syntheses[n]? = some s → Standing history c n s) (h
    : Effect c (.step n input) d) (hsound : Sound c) (hdistinct : Distinct c) (horderly :
    Undisturbed ⟨c, .step n input⟩) (ht : d.syntheses[n]? = some t) : Standing (⟨c, .step n input⟩
    :: history) d n t := by
  cases h with
  | notice => exact (hc t ht).keep _ Iff.rfl rfl (messagesOf_notice _ _ _) rfl rfl fun _ => rfl
  | silent _ _ s stage hs hrunning hends hterminal =>
    obtain ⟨u, hu, ⟨-, rfl⟩ | ⟨hne, -⟩⟩ := getElem?_modify_eq_some ht
    · cases hs.symm.trans hu
      cases hc s hs with
      | speaking slot live running quiet =>
        refine .speaking slot live (fun hdone => ?_) quiet
        -- the write would have gone out, so only a dropped failure ends the goroutine here
        rcases hends hdone with hended | hactive | hdropped
        · exact hended live
        · exact hactive (hsound.isActive slot hs)
        · exact horderly slot hdropped
      | aborted free x mem aborts => exact .aborted free x (List.mem_cons_of_mem _ mem) aborts
      | ended free done => exact absurd done hrunning
    · exact absurd rfl hne
  | spoke _ _ s stage message hs hrunning hlive hactive hopening hgoing =>
    obtain ⟨u, hu, ⟨-, rfl⟩ | ⟨hne, -⟩⟩ := getElem?_modify_eq_some ht
    · cases hs.symm.trans hu
      cases hc s hs with
      | speaking slot live running quiet =>
        refine .speaking slot live hgoing.1 ?_
        change ∀ m ∈ messagesOf n (⟨some n, message⟩ :: c.wire), _
        rw [messagesOf_own]
        exact List.forall_mem_cons.mpr ⟨hopening, quiet⟩
      | aborted free => exact absurd (hsound.live n s hs hlive) free
      | ended free done => exact absurd done hrunning
    · exact absurd rfl hne
  | finished _ s state code active hs hfinishing hheld hsame =>
    obtain ⟨u, hu, ⟨-, rfl⟩ | ⟨hne, -⟩⟩ := getElem?_modify_eq_some ht
    · have hown := hdistinct.own hsound hheld hs (by rw [hfinishing]; nofun) hsame
      cases hc s hs with
      | speaking slot live running quiet =>
        -- the request in the slot is its own, so its context is live and the event goes out
        obtain ⟨v, hv, hlater⟩ := evolves_canceled n s hs
        cases hu.symm.trans hv
        refine .ended nofun rfl ?_
        simp only [setStage, live, if_true]
        refine ⟨_, _, messagesOf_own n _ c.wire, ?_, rfl, hlater.requestID.symm, quiet⟩
        exact hsound.closing n s state code hs hfinishing
      | aborted free | ended free => exact absurd ((inSlot_of_held hheld).mpr hown) free
    · exact absurd rfl hne

theorem Effect.standing
    (h : Effect c call d) (hsound : Sound c) (hdistinct : Distinct c) (horderly : Undisturbed ⟨c,
    call⟩) (hc : ∀ (n : ℕ) (s : Synthesis), c.syntheses[n]? = some s → Standing history c n s)
    (hopen : d.closed = false) (n : ℕ) (t : Synthesis) (ht : d.syntheses[n]? = some t) : Standing
    (⟨c, call⟩ :: history) d n t := by
  by_cases hstep : ∃ request input, call = .step request input
  · obtain ⟨request, input, rfl⟩ := hstep
    by_cases hn : n = request
    · subst hn
      exact .step_own (hc n) h hsound hdistinct horderly ht
    · exact .step_other (hc n) h hsound hdistinct hn ht
  cases h with
  | notice => exact (hc n t ht).keep _ Iff.rfl rfl (messagesOf_notice _ _ _) rfl rfl fun _ => rfl
  | started requestID text hfree =>
    rcases getElem?_append_singleton ht with hold | ⟨rfl, rfl⟩
    · refine (hc n t hold).keep _ ?_ rfl rfl rfl rfl fun _ => rfl
      have hn := (List.getElem?_eq_some_iff.mp hold).1
      rw [inSlot_of_held rfl, Connection.InSlot, hfree]
      simp only [Option.map_none, reduceCtorEq, iff_false]
      omega
    · refine .speaking ((inSlot_of_held rfl).mpr rfl) rfl (by rintro ⟨⟩) ?_
      rw [hsound.messagesOf_new]
      rintro _ ⟨⟩
  | aborted active hheld =>
    obtain ⟨s, hs, hid, hstage, -⟩ := getElem?_canceled ht
    by_cases hslot : c.InSlot n
    · -- this is the call that aborts the request
      refine .aborted (by rintro ⟨⟩) _ (List.mem_cons_self ..) ⟨rfl, ?_⟩
      rw [inSlot_of_held hheld] at hslot
      exact hslot ▸ hheld
    · exact (hc n s hs).keep _ ⟨by rintro ⟨⟩, fun h => absurd h hslot⟩ rfl rfl hid hstage
        fun h => absurd h hslot
  | disconnected => cases hopen
  | expired request =>
    obtain ⟨s, hs, ⟨rfl, rfl⟩ | ⟨-, rfl⟩⟩ := getElem?_modify_eq_some ht
    · exact (hc request s hs).keep _ Iff.rfl rfl rfl rfl rfl fun hslot => absurd hslot horderly
    · exact (hc n t hs).keep _ Iff.rfl rfl rfl rfl rfl fun _ => rfl
  | silent | spoke | finished => exact absurd ⟨_, _, rfl⟩ hstep

/-! ## Whole runs -/

variable {init state : Connection} {history : List (Served Connection Call)}

theorem open_before (h : Run serve init history state) (hopen : state.closed = false)
    (x : Served Connection Call) (hx : x ∈ history) : x.before.closed = false := by
  induction h with
  | nil => cases hx
  | @step history state call run ih => grind [serve_cases]

theorem standing_run {sessionID : String} {protocolVersion : ℤ}
    (h : Run serve (opened sessionID protocolVersion) history state)
    (horderly : ∀ x ∈ history, Orderly x) (hopen : state.closed = false) (n : ℕ) (s : Synthesis)
    (hs : state.syntheses[n]? = some s) : Standing history state n s := by
  induction h generalizing n s with
  | nil => cases hs
  | @step history state call run ih =>
    have hstate := open_before (.step call run) hopen _ (List.mem_cons_self ..)
    have hpast : ∀ x ∈ history, Orderly x := fun x hx => horderly x (List.mem_cons_of_mem _ hx)
    rcases serve_cases state call with ⟨hclosed, -⟩ | ⟨-, heffect⟩
    · grind
    exact heffect.standing (sound_run run (sound_opened _ _))
      (distinct_run run nofun fun x hx => (hpast x hx).1)
      (horderly _ (List.mem_cons_self ..)).2 (fun m t ht => ih hpast hstate m t ht) hopen n s hs

theorem sessionID_run (h : Run serve init history state) : state.sessionID = init.sessionID := by
  refine h.invariant (I := fun c => c.sessionID = init.sessionID) (fun c call hc => ?_) rfl
  rcases serve_cases c call with ⟨-, hsame⟩ | ⟨-, heffect⟩
  · rwa [hsame]
  · exact heffect.sessionID.trans hc

theorem open_after (h : Run serve init history state) (hopen : state.closed = false)
    (x : Served Connection Call) (hx : x ∈ history) : (x.after serve).closed = false := by
  obtain ⟨later, earlier, rfl⟩ := List.append_of_mem hx
  obtain ⟨-, hlater⟩ := h.split
  by_contra hclosed
  rw [Bool.not_eq_false] at hclosed
  have hstays := hlater.invariant (I := fun c => c.closed = true) (fun c call hc => ?_) hclosed
  · rw [hopen] at hstays
    cases hstays
  · grind [serve_cases]

/-! ## The next request -/

/-- A request with a budget is started. -/
def Connection.Accepts (c : Connection) : Prop :=
  ∀ requestID text, (c.next (.request c.sessionID requestID text (.ok ()))).active =
    some ⟨requestID, c.syntheses.length⟩

theorem accepts_of_free (hopen : c.closed = false) (hfree : c.active = none) : c.Accepts := by
  intro requestID text
  simp [next, hopen, handleControl, startTTS, hfree,
    report]

theorem Effect.free_of_terminal (h : Effect c call d)
    {event : TTSEvent} (hwire : d.wire = ⟨some n, .tts event⟩ :: c.wire)
    (hterminal : event.state.isTerminal = true) : d.active = none := by
  have hself : ∀ sent : Sent, c.wire ≠ sent :: c.wire := fun sent =>
    (List.cons_ne_self sent c.wire).symm
  cases h with
  | notice call messages =>
    cases messages with
    | nil => exact absurd hwire (hself _)
    | cons message rest => cases hwire
  | started | expired | silent => exact absurd hwire (hself _)
  | aborted => rfl
  | disconnected => rfl
  | spoke request input s stage message hs hrunning hlive hactive hopening =>
    cases hwire
    rw [Message.isTerminal, hterminal] at hopening
    cases hopening
  | finished => rfl

/-! ## A goroutine gets on -/

/-- The input that moves a goroutine out of a stage. -/
def Stage.Expects : Stage → Input → Prop
  | .start, .go | .sentence, .go | .streaming _, .returned _ | .settling _, .settled _
  | .finishing _ _, .go => True
  | _, _ => False

/-- How many inputs a goroutine is away from its end, at most. -/
def Stage.rank : Stage → ℕ
  | .start => 5
  | .sentence => 4
  | .streaming _ => 3
  | .settling _ => 2
  | .finishing _ _ => 1
  | .done => 0

theorem exists_expects {stage : Stage} (h : stage ≠ .done) : ∃ input, stage.Expects input := by
  cases stage with
  | start | sentence | finishing => exact ⟨.go, trivial⟩
  | streaming frames => exact ⟨.returned (.ok ()), trivial⟩
  | settling frames => exact ⟨.settled (.ok ()), trivial⟩
  | done => exact absurd rfl h

namespace Connection

variable {c : Connection} {n : ℕ} {s : Synthesis}

theorem rank_afterCall (result : Except Failure Unit) (h : 1 ≤ stage.rank) :
    (afterCall result stage).rank ≤ stage.rank := by
  cases result with
  | ok value => exact Nat.le_refl _
  | error cause =>
    rw [afterCall, handleTTSError]
    split
    · exact Nat.zero_le _
    · exact h

theorem getElem?_setStage (hs : c.syntheses[n]? = some s) (stage : Stage) :
    (c.setStage n stage).syntheses[n]? = some { s with stage } := by
  rw [setStage, List.getElem?_modify_eq, hs]
  rfl

theorem syntheses_writeIfActive (request : ℕ) (s : Synthesis) (message : Message) :
    (c.writeIfActive request s message).1.syntheses = c.syntheses := by
  rcases writeIfActive_cases (c := c) request s message with ⟨-, -, h⟩ | ⟨-, cause, h⟩
  · rw [h]
  · rw [h]

theorem exists_finishTTS (hs : c.syntheses[n]? = some s) (state : TTSState) (code : String) :
    ∃ t, (c.finishTTS n s state code).syntheses[n]? = some t := by
  rw [finishTTS]
  split
  · obtain ⟨t, ht, -⟩ := evolves_canceled n s hs
    refine ⟨t, ?_⟩
    cases hended : s.ended <;> exact ht
  · exact ⟨s, hs⟩

theorem step_gets_on (hopen : c.closed = false) (hs : c.syntheses[n]? = some s)
    (hinput : s.stage.Expects input) :
    ∃ t, (c.next (.step n input)).syntheses[n]? = some t ∧ t.stage.rank < s.stage.rank := by
  have hnext : c.next (.step n input) = c.streamTTS n s input := by
    simp [next, hopen, hs]
  rw [hnext]
  -- a write leaves the goroutine where it is, so the new stage is the one that is set
  have hwrite : ∀ message stage,
      ((c.writeIfActive n s message).1.setStage n stage).syntheses[n]? = some { s with stage } :=
    fun message stage => getElem?_setStage (by rwa [syntheses_writeIfActive]) stage
  unfold streamTTS
  cases hstage : s.stage with
  | start | sentence =>
    rw [hstage] at hinput
    cases input with
    | go => exact ⟨_, hwrite _ _, Nat.lt_succ_of_le (rank_afterCall _ (by decide))⟩
    | _ => exact hinput.elim
  | streaming frames =>
    rw [hstage] at hinput
    cases input with
    | returned result =>
      exact ⟨_, getElem?_setStage hs _, Nat.lt_succ_of_le (rank_afterCall _ (Nat.le_succ 1))⟩
    | _ => exact hinput.elim
  | settling frames =>
    rw [hstage] at hinput
    cases input with
    | settled result =>
      exact ⟨_, getElem?_setStage hs _, Nat.lt_succ_of_le (rank_afterCall _ (Nat.le_refl 1))⟩
    | _ => exact hinput.elim
  | finishing state code =>
    rw [hstage] at hinput
    cases input with
    | go =>
      obtain ⟨t, ht⟩ := exists_finishTTS hs state code
      exact ⟨_, getElem?_setStage ht _, Nat.zero_lt_one⟩
    | _ => exact hinput.elim
  | done =>
    rw [hstage] at hinput
    exact hinput.elim

end Connection

/-! ## The end of a request -/

/-- On a connection that stays open, in a run of orderly calls, every request that was started and
not aborted ends with exactly one terminal event: its goroutine gets to its end within five inputs
besides frames, it has sent no terminal event before and one when it gets there, nothing of it
follows, and right after that event the connection accepts the next request. -/
theorem tts_request_ends_once (sessionID : String) (protocolVersion : ℤ) (history : List (Served
    Connection Call)) (state : Connection) (h : Run serve (opened sessionID protocolVersion) history
    state) (horderly : ∀ x ∈ history, Orderly x) (hopen : state.closed = false) (n : ℕ) (s :
    Synthesis) (hs : state.syntheses[n]? = some s) (hkept : ∀ x ∈ history, ¬ Aborts n x) : (s.stage
    ≠ .done → (∀ message ∈ messagesOf n state.wire, message.isTerminal = false) ∧ (∃ input,
    s.stage.Expects input) ∧ ∀ input, s.stage.Expects input → ∃ t, (state.next (.step n
    input)).syntheses[n]? = some t ∧ t.stage.rank < s.stage.rank) ∧ (s.stage = .done → EndedOnce
    sessionID s.requestID (messagesOf n state.wire)) ∧ ∀ x ∈ history, ∀ event, (x.after serve).wire
    = ⟨some n, .tts event⟩ :: x.before.wire → event.state.isTerminal = true → (x.after
    serve).Accepts := by
  have hstanding := standing_run h horderly hopen n s hs
  refine ⟨fun hrunning => ⟨?_, exists_expects hrunning,
    fun input hinput => step_gets_on hopen hs hinput⟩, fun hdone => ?_,
    fun x hx event hwire hterminal => ?_⟩
  · cases hstanding with
    | speaking slot live running quiet => exact quiet
    | aborted free x mem aborts => exact absurd aborts (hkept x mem)
    | ended free done => exact absurd done hrunning
  · cases hstanding with
    | speaking slot live running => exact absurd hdone running
    | aborted free x mem aborts => exact absurd aborts (hkept x mem)
    | ended free done once => rwa [sessionID_run h] at once
  · refine accepts_of_free (open_after h hopen x hx) ?_
    have heffect := next_effect (open_before h hopen x hx) x.call
    exact heffect.free_of_terminal hwire hterminal

/-- A request whose synthesizer returns: after its last step it has one terminal event. -/
theorem tts_request_ends_once_stop :
    ∃ history state s, Run serve (opened "voice:1" 3) history state ∧
      state.syntheses[0]? = some s ∧ s.stage = .done ∧
      EndedOnce "voice:1" 7 (messagesOf 0 state.wire) := by
  have hrun := run_replay serve (opened "voice:1" 3)
    [.step 0 .go, .step 0 (.settled (.ok ())), .step 0 (.returned (.ok ())), .step 0 .go,
      .step 0 .go, .request "voice:1" 7 "hello" (.ok ())]
  refine ⟨_, _, ⟨7, "hello", some .canceled, .done⟩, hrun, rfl, rfl, ?_⟩
  exact (tts_request_ends_once "voice:1" 3 _ _ hrun (by decide) rfl 0
    ⟨7, "hello", some .canceled, .done⟩ rfl (by decide)).2.1 rfl

/-- A synthesis that runs into its deadline ends without a terminal event. -/
theorem timeout_sends_no_terminal :
    ∃ history state s, Run serve (opened "voice:1" 3) history state ∧ state.closed = false ∧
      state.syntheses[0]? = some s ∧ s.stage = .done ∧ (∀ x ∈ history, ¬ Aborts 0 x) ∧
      ∀ message ∈ messagesOf 0 state.wire, message.isTerminal = false := by
  refine ⟨_, _, ⟨7, "hello", some .deadlineExceeded, .done⟩, run_replay serve (opened "voice:1" 3)
    [.step 0 .go, .step 0 (.returned (.error (.error contextDeadlineExceeded))), .deadline 0,
      .step 0 .go, .step 0 .go, .request "voice:1" 7 "hello" (.ok ())], rfl, rfl, rfl, ?_, ?_⟩
  · decide
  · decide

end XiaozhiPlatform.VoiceConnection
