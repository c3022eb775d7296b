import XiaozhiPlatform.Gateway.Synthesis

/-!
# Runs of the synthesis goroutines

What holds on a voice connection after any sequence of requests, aborts, goroutine steps and
deadlines.

A goroutine knows its request only by the request id, which the client chooses. `Sound` holds in
every state nevertheless: a context that is live belongs to the request in the slot, so nothing is
sent for a request that was aborted or has finished. What the id does not give is that the request
that a goroutine ends is its own (`reused_id_ends_other_request`); that needs ids that are fresh
among the goroutines that still run (`synthesis_keeps_to_its_request`).

A terminal event is written under the context of its own request, so a request that times out gets
none (`timeout_sends_no_terminal`). `Orderly` names the calls that a request survives, and
`tts_request_ends_once` says that without others every request ends with one terminal event.
-/

namespace XiaozhiPlatform.VoiceConnection

open GoLib Protocol

/-! ## Goroutines only go forward -/

/-- What later states know of a goroutine. -/
structure Later (s t : Synthesis) : Prop where
  requestID : t.requestID = s.requestID
  ended : s.ended ≠ none → t.ended ≠ none
  done : s.stage = .done → t.stage = .done

theorem Later.refl (s : Synthesis) : Later s s := ⟨rfl, id, id⟩

variable {t s : Synthesis}

theorem Later.trans {u : Synthesis} (hst : Later s t) (htu : Later t u) : Later s u :=
  ⟨htu.requestID.trans hst.requestID, htu.ended ∘ hst.ended, htu.done ∘ hst.done⟩

theorem later_finishContext (cause : Ended) (s : Synthesis) : Later s (s.finishContext cause) := by
  refine ⟨rfl, fun _ => ?_, id⟩
  cases h : s.ended <;> simp [Synthesis.finishContext, h]

theorem finishContext_ended (cause : Ended) (s : Synthesis) :
    (s.finishContext cause).ended ≠ none := by
  cases h : s.ended <;> simp [Synthesis.finishContext, h]

/-- Every goroutine of the first list is a later one in the second. -/
def Evolves (l k : List Synthesis) : Prop :=
  ∀ (n : ℕ) (s : Synthesis), l[n]? = some s → ∃ t, k[n]? = some t ∧ Later s t

theorem Evolves.refl (l : List Synthesis) : Evolves l l := fun _ s hs => ⟨s, hs, .refl s⟩

variable {l : List Synthesis}

theorem Evolves.trans {k m : List Synthesis} (hlk : Evolves l k) (hkm : Evolves k m) :
    Evolves l m := by
  intro n s hs
  obtain ⟨t, ht, hst⟩ := hlk n s hs
  obtain ⟨u, hu, htu⟩ := hkm n t ht
  exact ⟨u, hu, hst.trans htu⟩

theorem evolves_modify {f : Synthesis → Synthesis}
    (hf : ∀ s, l[i]? = some s → Later s (f s)) : Evolves l (l.modify i f) := by
  intro n s hs
  rw [List.getElem?_modify, hs]
  by_cases h : i = n
  · subst h
    exact ⟨f s, by simp, hf s hs⟩
  · exact ⟨s, by simp [h], .refl s⟩

variable {n : ℕ}

theorem getElem?_modify_eq_some {f : Synthesis → Synthesis} (h : (l.modify i f)[n]? = some t) :
    ∃ s, l[n]? = some s ∧ ((i = n ∧ t = f s) ∨ (i ≠ n ∧ t = s)) := by grind

theorem getElem?_append_singleton
    (h : (l ++ [s])[n]? = some t) : l[n]? = some t ∨ (n = l.length ∧ t = s) := by grind

theorem evolves_append (l k : List Synthesis) : Evolves l (l ++ k) := by
  intro n s hs
  exact ⟨s, by rw [List.getElem?_append_left (List.getElem?_eq_some_iff.mp hs).1, hs], .refl s⟩

namespace Connection

variable {c : Connection}

theorem evolves_endContext (cause : Ended) (request : ℕ) :
    Evolves c.syntheses (c.endContext cause request).syntheses :=
  evolves_modify fun s _ => later_finishContext cause s

theorem evolves_setStage (hs : c.syntheses[request]? = some s) (hrunning : s.stage ≠ .done) :
    Evolves c.syntheses (c.setStage request stage).syntheses := by
  refine evolves_modify fun t ht => ?_
  rw [hs] at ht
  cases ht
  exact ⟨rfl, id, fun h => absurd h hrunning⟩

theorem evolves_canceled : Evolves c.syntheses c.canceled := by
  rw [canceled]
  split
  · exact .refl _
  · exact evolves_endContext _ _

@[simp]
theorem length_canceled : c.canceled.length = c.syntheses.length := by grind [canceled]

/-- The goroutines after `active.cancel()` are at the stages that they were at, and the context of
the request in the slot has ended. -/
theorem getElem?_canceled (ht : c.canceled[n]? = some t) :
    ∃ s, c.syntheses[n]? = some s ∧ t.requestID = s.requestID ∧ t.stage = s.stage ∧
      (c.active.map ActiveTTS.request = some n → t.ended ≠ none) := by
  rw [canceled] at ht
  split at ht
  · grind
  · next active hheld =>
    obtain ⟨s, hs, ⟨-, rfl⟩ | ⟨hne, rfl⟩⟩ := getElem?_modify_eq_some ht
    · exact ⟨s, hs, rfl, rfl, fun _ => finishContext_ended _ s⟩
    · grind

end Connection

section

variable {c d : Connection} {call : Call} (h : Effect c call d)

include h

theorem Effect.evolves : Evolves c.syntheses d.syntheses := by
  cases h with
  | notice => exact .refl _
  | started => exact evolves_append _ _
  | aborted | disconnected => exact Connection.evolves_canceled
  | expired request => exact Connection.evolves_endContext _ _
  | silent _ _ _ _ hs hrunning | spoke _ _ _ _ _ hs hrunning =>
    exact Connection.evolves_setStage hs hrunning
  | finished request s state code active hs hfinishing =>
    exact Connection.evolves_canceled.trans (evolves_modify fun _ _ => ⟨rfl, id, fun _ => rfl⟩)

theorem Effect.length_le : c.syntheses.length ≤ d.syntheses.length := by
  by_contra hlt
  -- the last goroutine would be lost
  obtain ⟨t, ht, -⟩ := h.evolves d.syntheses.length _
    (List.getElem?_eq_getElem (Nat.lt_of_not_le hlt))
  exact absurd (List.getElem?_eq_some_iff.mp ht).1 (Nat.lt_irrefl _)

theorem Effect.earlier (ht : d.syntheses[n]? = some t) (hn : n < c.syntheses.length) :
    ∃ s, c.syntheses[n]? = some s ∧ Later s t := by
  obtain ⟨u, hu, hlater⟩ := h.evolves n _ (List.getElem?_eq_getElem hn)
  rw [ht] at hu
  cases hu
  exact ⟨_, List.getElem?_eq_getElem hn, hlater⟩

/-- The messages of a call: what a goroutine sends, it sends in a step of its own and under a live
context. -/
theorem Effect.wire : ∃ newer, d.wire = newer
    ++ c.wire ∧ ∀ sent ∈ newer, ∀ n, sent.writer = some n → (∃ input, call = .step n input) ∧ ∃ s,
    c.syntheses[n]? = some s ∧ s.ended = none ∧ s.stage ≠ .done := by
  cases h with
  | notice call messages => grind
  | started | aborted | disconnected | expired | silent => exact ⟨[], rfl, nofun⟩
  | spoke request input s stage message hs hrunning hlive =>
    refine ⟨[_], rfl, fun sent hsent n hn => ?_⟩
    cases List.mem_singleton.mp hsent
    cases hn
    exact ⟨⟨input, rfl⟩, s, hs, hlive, hrunning⟩
  | finished request s state code active hs hfinishing =>
    refine ⟨_, rfl, fun sent hsent n hn => ?_⟩
    split at hsent
    · next hlive =>
      cases List.mem_singleton.mp hsent
      cases hn
      exact ⟨⟨.go, rfl⟩, s, hs, hlive, by rw [hfinishing]; nofun⟩
    · cases hsent

end

/-! ## The slot and the live contexts -/

/-- The request of a goroutine is the one in the slot. -/
def Connection.InSlot (c : Connection) (request : ℕ) : Prop :=
  c.active.map ActiveTTS.request = some request
deriving Decidable

variable {c : Connection}

theorem Connection.inSlot_of_held {active : ActiveTTS} (h : c.active = some active)
    {request : ℕ} : c.InSlot request ↔ active.request = request := by
  rw [InSlot, h]
  simp

/-- What holds in every state, whatever ids the client chooses: the slot has the last request, and
a context that is live is the one of the request in the slot. -/
structure Sound (c : Connection) : Prop where
  slot : ∀ active, c.active = some active → active.request + 1 = c.syntheses.length ∧
    ∃ s, c.syntheses[active.request]? = some s ∧ s.requestID = active.requestID
  live : ∀ (n : ℕ) (s : Synthesis), c.syntheses[n]? = some s → s.ended = none → c.InSlot n
  closing : ∀ (n : ℕ) (s : Synthesis) (state : TTSState) (code : String),
    c.syntheses[n]? = some s → s.stage = .finishing state code → state.isTerminal = true
  writers : ∀ sent ∈ c.wire, ∀ n, sent.writer = some n → n < c.syntheses.length

theorem sound_opened (sessionID : String) (protocolVersion : ℤ) :
    Sound (opened sessionID protocolVersion) :=
  ⟨nofun, nofun, nofun, nofun⟩

namespace Effect

variable {c d : Connection} {call : Call}

theorem slot_cases (h : Effect c call d) : (d.active = c.active ∧ d.syntheses.length =
    c.syntheses.length) ∨ (d.active = none ∧ d.syntheses.length = c.syntheses.length ∧ ∀ n t,
    c.InSlot n → d.syntheses[n]? = some t → t.ended ≠ none) ∨ (c.active = none ∧ ∃ requestID text,
    call = .request c.sessionID requestID text (.ok ()) ∧ d.active = some ⟨requestID,
    c.syntheses.length⟩ ∧ d.syntheses = c.syntheses ++ [Synthesis.mk requestID text none .start])
    := by
  have hcanceled : ∀ n t, c.InSlot n → c.canceled[n]? = some t → t.ended ≠ none := by
    intro n t hn ht
    obtain ⟨-, -, -, -, hended⟩ := Connection.getElem?_canceled ht
    exact hended hn
  cases h with
  | notice => exact Or.inl ⟨rfl, rfl⟩
  | started requestID text hfree => exact Or.inr (Or.inr ⟨hfree, requestID, text, rfl, rfl, rfl⟩)
  | aborted | disconnected => exact Or.inr (Or.inl ⟨rfl, Connection.length_canceled, hcanceled⟩)
  | expired | silent | spoke => exact Or.inl ⟨rfl, List.length_modify ..⟩
  | finished request s state code active hs hfinishing hheld =>
    refine Or.inr (Or.inl ⟨rfl, ?_, fun n t hn ht => ?_⟩)
    · exact (List.length_modify ..).trans Connection.length_canceled
    · obtain ⟨u, hu, ⟨-, rfl⟩ | ⟨-, rfl⟩⟩ := getElem?_modify_eq_some ht
      · exact hcanceled n u hn hu
      · exact hcanceled n _ hn hu

theorem closing (h : Effect c call d) {state : TTSState} {code : String}
    (ht : d.syntheses[n]? = some t) (hstage : t.stage = .finishing state code) :
    state.isTerminal = true ∨ ∃ s, c.syntheses[n]? = some s ∧ s.stage = .finishing state code := by
  have hcanceled : ∀ t, c.canceled[n]? = some t → t.stage = .finishing state code →
      ∃ s, c.syntheses[n]? = some s ∧ s.stage = .finishing state code := by
    grind [Connection.getElem?_canceled]
  cases h with
  | notice => exact Or.inr ⟨t, ht, hstage⟩
  | started requestID text hfree => grind
  | aborted | disconnected => exact Or.inr (hcanceled t ht hstage)
  | expired =>
    obtain ⟨s, hs, ⟨-, rfl⟩ | ⟨-, rfl⟩⟩ := getElem?_modify_eq_some ht
    · exact Or.inr ⟨s, hs, hstage⟩
    · exact Or.inr ⟨_, hs, hstage⟩
  | silent request input s stage hs hrunning hends hterminal =>
    obtain ⟨u, hu, ⟨-, rfl⟩ | ⟨-, rfl⟩⟩ := getElem?_modify_eq_some ht
    · exact Or.inl (hterminal state code hstage)
    · exact Or.inr ⟨_, hu, hstage⟩
  | spoke request input s stage message hs hrunning hlive hactive hopening hgoing =>
    obtain ⟨u, hu, ⟨-, rfl⟩ | ⟨-, rfl⟩⟩ := getElem?_modify_eq_some ht
    · exact absurd hstage (hgoing.2 state code)
    · exact Or.inr ⟨_, hu, hstage⟩
  | finished request s state code active hs hfinishing hheld =>
    obtain ⟨u, hu, ⟨-, rfl⟩ | ⟨-, rfl⟩⟩ := getElem?_modify_eq_some ht
    · cases hstage
    · exact Or.inr (hcanceled _ hu hstage)

theorem sound (h : Effect c call d) (hc : Sound c) : Sound d := by
  have hslot := h.slot_cases
  refine ⟨fun active hactive => ?_, fun n t ht hlive => ?_, fun n t state code ht hstage => ?_, ?_⟩
  · rcases hslot with ⟨hsame, hlength⟩ | ⟨hnone, -⟩ | ⟨-, requestID, text, -, hnew, hsyntheses⟩
    · obtain ⟨hlast, s, hs, hid⟩ := hc.slot active (hsame ▸ hactive)
      obtain ⟨t, ht, hlater⟩ := h.evolves _ s hs
      exact ⟨hlength ▸ hlast, t, ht, hlater.requestID.trans hid⟩
    · rw [hnone] at hactive
      cases hactive
    · grind [List.getElem?_concat_length]
  · rcases hslot with ⟨hsame, hlength⟩ | ⟨hnone, hlength, hended⟩ |
      ⟨hfree, requestID, text, -, hnew, hsyntheses⟩
    · obtain ⟨s, hs, hlater⟩ := h.earlier ht (hlength ▸ (List.getElem?_eq_some_iff.mp ht).1)
      have hbefore : s.ended = none := not_not.mp fun hne => hlater.ended hne hlive
      rw [Connection.InSlot, hsame]
      exact hc.live n s hs hbefore
    · obtain ⟨s, hs, hlater⟩ := h.earlier ht (hlength ▸ (List.getElem?_eq_some_iff.mp ht).1)
      have hbefore : s.ended = none := not_not.mp fun hne => hlater.ended hne hlive
      exact absurd hlive (hended n t (hc.live n s hs hbefore) ht)
    · rw [Connection.inSlot_of_held hnew]
      rw [hsyntheses] at ht
      rcases getElem?_append_singleton ht with ht | ⟨rfl, -⟩
      · -- the slot was free, so no earlier context was live
        have := hc.live n t ht hlive
        rw [Connection.InSlot, hfree] at this
        cases this
      · rfl
  · rcases h.closing ht hstage with hterminal | ⟨s, hs, hbefore⟩
    · exact hterminal
    · exact hc.closing n s state code hs hbefore
  · obtain ⟨newer, hwire, hnewer⟩ := h.wire
    rw [hwire]
    intro sent hsent n hn
    rcases List.mem_append.mp hsent with hsent | hsent
    · grind
    · exact (hc.writers sent hsent n hn).trans_le h.length_le

end Effect

/-! ## Every run -/

variable {d : Connection}

section Runs

variable {c : Connection} {call : Call} {init state : Connection}
  {history earlier later : List (Served Connection Call)} {x : Served Connection Call} {n : ℕ}

theorem serve_cases (c : Connection) (call : Call) :
    (c.closed = true ∧ (serve c call).1 = c) ∨ (c.closed = false ∧ Effect c call (serve c call).1) := by
  cases hclosed : c.closed with
  | true =>
    refine Or.inl ⟨rfl, ?_⟩
    simp only [serve, Connection.next, hclosed, if_true]
  | false => exact Or.inr ⟨rfl, Connection.next_effect hclosed call⟩

theorem sound_run (h : Run serve init history state) (hinit : Sound init) : Sound state := by
  refine h.invariant (fun c call hc => ?_) hinit
  rcases serve_cases c call with ⟨-, hsame⟩ | ⟨-, heffect⟩
  · rwa [hsame]
  · exact heffect.sound hc

end Runs

/-! ## Ids that tell goroutines apart -/

/-- A request that is started has an id that no running goroutine has. -/
def Fresh (x : Served Connection Call) : Prop :=
  match x.call with
  | .request sessionID requestID _ (.ok ()) =>
    sessionID = x.before.sessionID → x.before.active = none →
      ∀ s ∈ x.before.syntheses, s.requestID = requestID → s.stage = .done
  | _ => True

instance (x : Served Connection Call) : Decidable (Fresh x) := by
  unfold Fresh
  split <;> infer_instance

/-- A goroutine that still runs has another id than every later request. -/
def Distinct (c : Connection) : Prop :=
  ∀ (n m : ℕ) (s t : Synthesis), n < m → c.syntheses[n]? = some s → c.syntheses[m]? = some t →
    s.stage ≠ .done → s.requestID ≠ t.requestID

theorem Effect.distinct (h : Effect c call d) (hc : Distinct c)
    (hfresh : Fresh ⟨c, call⟩) : Distinct d := by
  intro n m s t hnm hs ht hrunning
  by_cases hm : m < c.syntheses.length
  · -- both goroutines ran before the call
    obtain ⟨u, hu, hsu⟩ := h.earlier hs (hnm.trans hm)
    obtain ⟨v, hv, htv⟩ := h.earlier ht hm
    rw [hsu.requestID, htv.requestID]
    exact hc n m u v hnm hu hv fun hdone => hrunning (hsu.done hdone)
  · -- the later one is the request that the call started
    have hlength := (List.getElem?_eq_some_iff.mp ht).1
    rcases h.slot_cases with ⟨-, hsame⟩ | ⟨-, hsame, -⟩ |
      ⟨hfree, requestID, text, hcall, -, hsyntheses⟩
    · exact absurd (hsame ▸ hlength) hm
    · exact absurd (hsame ▸ hlength) hm
    rw [hsyntheses] at hs ht
    rcases getElem?_append_singleton ht with ht | ⟨rfl, rfl⟩
    · grind
    rcases getElem?_append_singleton hs with hs | ⟨rfl, -⟩
    · subst hcall
      exact fun hid => hrunning (hfresh rfl hfree s (List.mem_of_getElem? hs) hid)
    · exact absurd hnm (Nat.lt_irrefl _)

theorem distinct_run
    (h : Run serve init history state) (hinit : Distinct init) (hfresh : ∀ x ∈ history, Fresh x) :
    Distinct state := by
  induction h with
  | nil => exact hinit
  | @step history state call run ih =>
    have hstate := ih fun x hx => hfresh x (List.mem_cons_of_mem _ hx)
    rcases serve_cases state call with ⟨-, hsame⟩ | ⟨-, heffect⟩
    · rwa [hsame]
    · exact heffect.distinct hstate (hfresh _ (List.mem_cons_self ..))

/-- With distinct ids, the request that a goroutine ends is its own. -/
theorem Distinct.own (hdistinct : Distinct c) (hsound : Sound c) (hheld : c.active = some active)
    (hs : c.syntheses[n]? = some s) (hrunning : s.stage ≠ .done)
    (hsame : active.requestID = s.requestID) : active.request = n := by
  obtain ⟨hlast, t, ht, hid⟩ := hsound.slot active hheld
  have hn := (List.getElem?_eq_some_iff.mp hs).1
  by_contra hne
  exact hdistinct n active.request s t (by omega) hs ht hrunning (hsame.symm.trans hid.symm)

/-- A step of a goroutine, with distinct ids, leaves every other request alone. -/
theorem Effect.others {input : Input} (h : Effect c (.step n input) d)
    (hsound : Sound c) (hdistinct : Distinct c) {m : ℕ} (hm : m ≠ n) :
    (c.InSlot m → d.InSlot m) ∧ d.syntheses[m]? = c.syntheses[m]? := by
  have hmodify : ∀ (l : List Synthesis) f, (l.modify n f)[m]? = l[m]? := by grind
  cases h with
  | notice => exact ⟨id, rfl⟩
  | silent | spoke => exact ⟨id, hmodify _ _⟩
  | finished request s state code active hs hfinishing hheld hsame =>
    -- the slot has the request of the goroutine itself
    have hown := hdistinct.own hsound hheld hs (by rw [hfinishing]; nofun) hsame
    refine ⟨fun hslot => ?_, ?_⟩
    · grind [Connection.inSlot_of_held]
    · refine (hmodify _ _).trans ?_
      change c.canceled[m]? = _
      simp only [Connection.canceled, hheld, hown, hmodify]

end XiaozhiPlatform.VoiceConnection
