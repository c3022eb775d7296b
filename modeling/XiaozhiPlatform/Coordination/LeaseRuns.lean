import XiaozhiPlatform.Coordination.Leases

/-!
# Runs of the lease table

The calls of any number of coordinators take effect one after the other on one database, in the order
of their timestamps, and no two of them draw the same lease identifier.

- `gone_run`: a lease that has expired stays expired.
- `Windows`: the rate windows of the accepted requests of a subject are the same or a minute apart,
  and the current row counts at least those of its own window.
- `runtime_leases`: one lease for each kind and subject, at most the maximum of a kind, no lease that
  comes back and at most twice the limit of requests in a minute.
-/

namespace XiaozhiPlatform.Coordination

open GoLib Auth Sql Database

/-! ## Leases that are gone -/

section Gone

variable {leaseID : List UInt8} {t : Time} {db init state : Database} {call : LeaseCall}
  {history : List (Served Database LeaseCall)}

theorem mem_serveLease (h : row ∈ (serveLease db call).1.leases.rows) : row ∈
    db.leases.rows ∨ call.drawn = some row.leaseID ∨ ∃ found ∈ db.leases.rows, found.leaseID =
    row.leaseID ∧ call.context.databaseNow < found.expiresAt := by
  have hacquires : ∀ {kind globalMaximum} {result : Database × Except Error Lease},
      Acquires call.context.databaseNow call.drawn kind globalMaximum db result →
        row ∈ result.1.leases.rows → row ∈ db.leases.rows ∨ call.drawn = some row.leaseID := by
    rintro kind globalMaximum result (⟨hsubset, -⟩ | ⟨fresh, inserted, hfresh, hinserted⟩) hrow
    · exact .inl (hsubset row hrow)
    · rw [hinserted.rows, List.mem_append, List.mem_singleton] at hrow
      rcases hrow with hrow | rfl
      · exact .inl (mem_of_mem_pruneLeases hrow)
      · exact .inr (hinserted.leaseID ▸ hfresh)
  cases call with
  | acquireVoice context random subject globalMaximum ttl =>
    exact (hacquires acquires_acquireVoice h).imp_right .inl
  | acquireAgent context random subject requestsPerMinute globalMaximum ttl =>
    exact (hacquires acquires_acquireAgent h).imp_right .inl
  | release context lease => exact .inl ((release_cases lease).1 row h)
  | renew context lease ttl =>
    rcases renew_cases context db ttl lease with
      ⟨hsame, -⟩ | ⟨⟨found, hfound, hid, hexpires⟩, -, hrows⟩
    · exact .inl (hsame ▸ h)
    · refine (hrows row h).imp_right fun hrenewed => .inr ⟨found, hfound, ?_, hexpires⟩
      rw [hid, hrenewed]

/-- A lease that is gone stays gone, because its identifier is not drawn again and a lease that is
renewed has not expired. -/
theorem gone_serveLease (h : db.Gone leaseID t) (hnow : t ≤ call.context.databaseNow)
    (hdrawn : call.drawn ≠ some leaseID) : (serveLease db call).1.Gone leaseID t := by
  intro row hrow hid
  rcases mem_serveLease hrow with hold | hfresh | ⟨found, hfound, hsame, hexpires⟩
  · exact h row hold hid
  · exact absurd (hid ▸ hfresh) hdrawn
  · have hexpired := h found hfound (hsame.trans hid)
    exact absurd (lt_of_le_of_lt hnow hexpires) (not_lt.mpr hexpired)

theorem gone_run (hrun : Run serveLease init history state) (h : init.Gone leaseID t)
    (hnow : ∀ x ∈ history, t ≤ x.call.context.databaseNow)
    (hdrawn : ∀ x ∈ history, x.call.drawn ≠ some leaseID) : state.Gone leaseID t := by
  induction hrun with
  | nil => exact h
  | step call _ ih => grind [List.mem_cons_of_mem, gone_serveLease, List.mem_cons_self]

theorem renew_of_gone (h : db.Gone lease.leaseID t) (hnow : t ≤ context.databaseNow) :
    (renew context lease ttl db).1 = db ∧ ∀ renewed, (renew context lease ttl db).2 ≠ .ok renewed
    := by
  rcases renew_cases context db ttl lease with hfailed | ⟨⟨row, hrow, hid, hexpires⟩, -⟩
  · exact hfailed
  · exact absurd (lt_of_le_of_lt hnow hexpires) (not_lt.mpr (h row hrow hid))

theorem exists_drawn (hrun : Run serveLease init history state) (hinit : init.leases.rows = []) :
    ∀ row ∈ state.leases.rows, ∃ x ∈ history, x.call.drawn = some row.leaseID := by
  induction hrun with
  | nil => simp [hinit]
  | @step history state call run ih =>
    have hold : ∀ row ∈ state.leases.rows,
        ∃ x ∈ ⟨state, call⟩ :: history, x.call.drawn = some row.leaseID := by grind
    intro row hrow
    rcases mem_serveLease hrow with hmem | hfresh | ⟨found, hfound, hsame, -⟩
    · exact hold row hmem
    · exact ⟨_, List.mem_cons_self, hfresh⟩
    · exact hsame ▸ hold found hfound

end Gone

/-! ## Rate windows -/

/-- The rate window that a request starts for a subject without one. -/
def freshLimit (databaseNow : Time) (subject : Digest) : AgentLimitRow :=
  ⟨subject, databaseNow, 0, databaseNow + minute⟩

/-- How a call that accepts no request leaves the rate window of a subject. -/
def LimitKept (databaseNow : Time) (subject : Digest) (before after : Option AgentLimitRow) : Prop :=
  after = before ∨ after = before.filter (fun row => databaseNow < row.expiresAt) ∨
    after = (before.filter fun row => databaseNow < row.expiresAt).or
      (some (freshLimit databaseNow subject))

/-- How a call counts a request of a subject. -/
def LimitCounted (databaseNow : Time) (subject : Digest) (requestsPerMinute : ℤ)
    (before after : Option AgentLimitRow) : Prop :=
  ∃ row, (before.filter fun row => databaseNow < row.expiresAt).or
      (some (freshLimit databaseNow subject)) = some row ∧
    (rateWindow databaseNow row).2 < requestsPerMinute ∧
    after = some (countRequest databaseNow (rateWindow databaseNow row) row)

/-- The subject of a request of an Agent, and the limit that the call gives. -/
def LeaseCall.agentRequest : LeaseCall → Option (String × ℤ)
  | .acquireAgent _ _ subject requestsPerMinute _ _ => some (subject, requestsPerMinute)
  | _ => none

section Limits

variable {context : Context} {db : Database} {call : LeaseCall} {subject : String} {digest : Digest}
  {random : List UInt8} {requestsPerMinute globalMaximum ttl : ℤ}

theorem limitKept_acquireVoice : LimitKept context.databaseNow digest (db.limitOf digest)
    ((acquireVoice context random subject globalMaximum ttl db).1.limitOf digest) := by
  left
  unfold acquireVoice
  split
  · rfl
  next voice _ =>
    split
    · rfl
    · rcases acquire_cases context .voiceLease voice "generate voice lease fencing id" random
        (fun leaseID db => db.acquireVoiceIn context.databaseNow voice leaseID context.holderID
          globalMaximum ttl) db with ⟨hsame, -⟩ | ⟨leaseID, business, -, haction, -⟩
      · rw [hsame]
      · rw [limitOf, (acquireVoiceIn_cases haction).1, limitOf]

variable (context db subject digest random requestsPerMinute globalMaximum ttl) in
theorem limit_acquireAgent :
    (LimitKept context.databaseNow digest (db.limitOf digest)
        ((acquireAgent context random subject requestsPerMinute globalMaximum ttl db).1.limitOf digest) ∧
      (subjectDigest "agent-lease" subject = .ok digest → ∀ lease,
        (acquireAgent context random subject requestsPerMinute globalMaximum ttl db).2 ≠ .ok lease)) ∨
    LimitCounted context.databaseNow digest requestsPerMinute (db.limitOf digest)
      ((acquireAgent context random subject requestsPerMinute globalMaximum ttl db).1.limitOf digest) := by
  unfold acquireAgent
  split
  · exact .inl ⟨.inl rfl, fun _ => nofun⟩
  next agent hagent =>
    split
    · exact .inl ⟨.inl rfl, fun _ => nofun⟩
    · rcases acquire_cases context .agentLease agent "generate Agent permit fencing id" random
        (fun leaseID db => db.acquireAgentIn context.databaseNow agent leaseID context.holderID
          requestsPerMinute globalMaximum ttl) db with
        ⟨hsame, hfailed⟩ | ⟨leaseID, business, -, haction, hlease⟩
      · exact .inl ⟨.inl (by rw [hsame]), fun _ => hfailed⟩
      · obtain ⟨-, hother, hself⟩ := acquireAgentIn_cases haction
        by_cases hdigest : digest = agent
        · subst hdigest
          have hrefused : (∀ expiresAt, business ≠ .ok expiresAt) → ∀ lease,
              (acquire context .agentLease digest "generate Agent permit fencing id" random
                (fun leaseID db => db.acquireAgentIn context.databaseNow digest leaseID
                  context.holderID requestsPerMinute globalMaximum ttl) db).2 ≠ .ok lease := by
            grind
          rcases hself with ⟨hpruned, hbusiness⟩ | ⟨row, hrow, ⟨hread, hbusiness⟩ | ⟨hlimit, hcounted⟩⟩
          · exact .inl ⟨.inr (.inl hpruned), fun _ => hrefused hbusiness⟩
          · exact .inl ⟨.inr (.inr (hread.trans hrow.symm)), fun _ => hrefused hbusiness⟩
          · exact .inr ⟨row, hrow, hlimit, hcounted⟩
        · refine .inl ⟨.inr (.inl (hother digest hdigest)), fun heq => ?_⟩
          rw [hagent] at heq
          cases heq
          exact absurd rfl hdigest

theorem limit_serveLease (db : Database) (call : LeaseCall) (digest : Digest) :
    (LimitKept call.context.databaseNow digest (db.limitOf digest)
        ((serveLease db call).1.limitOf digest) ∧
      ∀ subject requestsPerMinute, call.agentRequest = some (subject, requestsPerMinute) →
        subjectDigest "agent-lease" subject = .ok digest → (serveLease db call).2.isOk = false) ∨
    ∃ subject requestsPerMinute, call.agentRequest = some (subject, requestsPerMinute) ∧
      LimitCounted call.context.databaseNow digest requestsPerMinute (db.limitOf digest)
        ((serveLease db call).1.limitOf digest) := by
  cases call with
  | acquireVoice context random subject globalMaximum ttl =>
    exact .inl ⟨limitKept_acquireVoice, nofun⟩
  | acquireAgent context random subject requestsPerMinute globalMaximum ttl =>
    rcases limit_acquireAgent context db subject digest random requestsPerMinute globalMaximum ttl with
      ⟨hkept, hfailed⟩ | hcounted
    · refine .inl ⟨hkept, fun agent limit heq hdigest => ?_⟩
      cases heq
      have hrefused := hfailed hdigest
      simp only [serveLease]
      cases hreply : (acquireAgent context random subject requestsPerMinute globalMaximum ttl db).2 with
      | error err => rfl
      | ok lease => exact absurd hreply (hrefused lease)
    · exact .inr ⟨subject, requestsPerMinute, rfl, hcounted⟩
  | release context lease =>
    refine .inl ⟨.inl ?_, nofun⟩
    exact congrArg (fun limits => limits.select (byKey AgentLimitRow.subjectSHA256 digest))
      (release_cases lease).2.1
  | renew context lease ttl =>
    refine .inl ⟨.inl ?_, nofun⟩
    rcases renew_cases context db ttl lease with ⟨hsame, -⟩ | ⟨-, hlimits, -⟩
    · exact congrArg (limitOf · digest) hsame
    · exact congrArg (fun limits => limits.select (byKey AgentLimitRow.subjectSHA256 digest)) hlimits

end Limits

/-- What the rate window of a subject says at an instant about the windows of its accepted
requests. -/
structure Fits (t : Time) (windows : List ℤ) (limit : Option AgentLimitRow) : Prop where
  absent : limit = none → ∀ w ∈ windows, w + minute ≤ t
  started : ∀ row, limit = some row → row.windowStartedAt ≤ t
  expires : ∀ row, limit = some row → row.windowStartedAt + minute ≤ row.expiresAt
  apart : ∀ row, limit = some row →
    ∀ w ∈ windows, w = row.windowStartedAt ∨ w + minute ≤ row.windowStartedAt
  counted : ∀ row, limit = some row → (windows.count row.windowStartedAt : ℤ) ≤ row.acceptedRequests

namespace Fits

variable {t now : ℤ} {windows : List ℤ} {limit after : Option AgentLimitRow} {subject : Digest}
  {requestsPerMinute : ℤ}

theorem mono (h : Fits t windows limit) (hle : t ≤ now) : Fits now windows limit where
  absent hnone w hw := le_trans (h.absent hnone w hw) hle
  started row hrow := le_trans (h.started row hrow) hle
  expires := h.expires
  apart := h.apart
  counted := h.counted

theorem of_cons (h : Fits t (w :: windows) limit) : Fits t windows limit where
  absent hnone v hv := h.absent hnone v (List.mem_cons_of_mem w hv)
  started := h.started
  expires := h.expires
  apart row hrow v hv := h.apart row hrow v (List.mem_cons_of_mem w hv)
  counted row hrow := by
    have hcons := h.counted row hrow
    have hle : windows.count row.windowStartedAt ≤ (w :: windows).count row.windowStartedAt :=
      List.count_le_count_cons
    omega

theorem filter (h : Fits now windows limit) :
    Fits now windows (limit.filter fun row => now < row.expiresAt) where
  absent hnone w hw := by
    cases limit with
    | none => exact h.absent rfl w hw
    | some row =>
      have hexpired : ¬ now < row.expiresAt := by grind
      have hstart := h.expires row rfl
      rcases h.apart row rfl w hw with heq | hle
      · grind
      · have hmin : (0 : ℤ) ≤ minute := by decide
        linarith [not_lt.mp hexpired]
  started row hrow := h.started row (Option.eq_some_of_filter_eq_some hrow)
  expires row hrow := h.expires row (Option.eq_some_of_filter_eq_some hrow)
  apart row hrow := h.apart row (Option.eq_some_of_filter_eq_some hrow)
  counted row hrow := h.counted row (Option.eq_some_of_filter_eq_some hrow)

theorem count_eq_zero (h : ∀ w ∈ windows, w + minute ≤ now) : windows.count now = 0 := by
  refine List.count_eq_zero.mpr fun hmem => ?_
  have hmin : (0 : ℤ) < minute := by decide
  linarith [h now hmem]

theorem or_fresh (h : Fits now windows limit) :
    Fits now windows (limit.or (some (freshLimit now subject))) := by
  cases limit with
  | some row => exact h
  | none =>
    have hover := h.absent rfl
    refine ⟨nofun, ?_, ?_, ?_, ?_⟩ <;> rintro row ⟨⟩
    · exact le_refl now
    · exact le_refl (now + minute)
    · exact fun w hw => .inr (hover w hw)
    · simp [freshLimit, count_eq_zero hover]

theorem kept (h : Fits now windows limit) (hkept : LimitKept now subject limit after) :
    Fits now windows after := by
  rcases hkept with rfl | rfl | rfl
  · exact h
  · exact h.filter
  · exact h.filter.or_fresh

end Fits

theorem minute_le_timeSub (t u : ℤ) : minute ≤ timeSub t u ↔ u + minute ≤ t := by
  simp only [timeSub, minute, second]
  omega

theorem rateWindow_cases : (now < row.windowStartedAt + minute ∧
    rateWindow now row = (row.windowStartedAt, row.acceptedRequests)) ∨ row.windowStartedAt
    + minute ≤ now ∧ rateWindow now row = (now, 0) := by
  grind [rateWindow, minute_le_timeSub]

namespace Fits

variable {now : ℤ} {windows : List ℤ} {limit after : Option AgentLimitRow} {subject : Digest}
  {requestsPerMinute : ℤ}

/-- A request that is counted has a window of its own row, and the window has room for it. -/
theorem count (h : Fits now windows limit) (hcounted : LimitCounted now subject requestsPerMinute
    limit after) : ∃ row, after = some row ∧ Fits now (row.windowStartedAt :: windows) after ∧
    (row.windowStartedAt ≤ now ∧ now < row.windowStartedAt + minute) ∧ (∀ w ∈ windows, w =
    row.windowStartedAt ∨ w + minute ≤ row.windowStartedAt) ∧ (windows.count row.windowStartedAt :
    ℤ) < requestsPerMinute := by
  obtain ⟨row, hrow, hlimit, rfl⟩ := hcounted
  have hfits : Fits now windows (some row) := hrow ▸ h.filter.or_fresh
  have hmin : (0 : ℤ) < minute := by decide
  rcases rateWindow_cases with ⟨hinside, hwindow⟩ | ⟨hover, hwindow⟩
  · -- The request falls into the window of the row.
    rw [hwindow] at hlimit ⊢
    have hstarted := hfits.started row rfl
    have hapart := hfits.apart row rfl
    have hcount := hfits.counted row rfl
    refine ⟨_, rfl, ⟨nofun, ?_, ?_, ?_, ?_⟩, ⟨hstarted, hinside⟩, hapart,
      lt_of_le_of_lt hcount hlimit⟩
    · rintro _ ⟨⟩
      exact hstarted
    · rintro _ ⟨⟩
      exact Int.add_le_add_right hstarted minute
    · rintro _ ⟨⟩ w hw
      rcases List.mem_cons.mp hw with rfl | hw
      · exact .inl rfl
      · exact hapart w hw
    · grind [countRequest]
  · -- The window of the row is over, so the request starts the next one.
    rw [hwindow] at hlimit ⊢
    have hpast : ∀ w ∈ windows, w + minute ≤ now := by
      intro w hw
      rcases hfits.apart row rfl w hw with rfl | hle
      · exact hover
      · linarith
    have hzero := count_eq_zero hpast
    refine ⟨_, rfl, ⟨nofun, ?_, ?_, ?_, ?_⟩, ⟨le_refl now, ?_⟩, fun w hw => .inr (hpast w hw), ?_⟩
    · rintro _ ⟨⟩
      exact le_refl now
    · rintro _ ⟨⟩
      exact le_refl (now + minute)
    · rintro _ ⟨⟩ w hw
      rcases List.mem_cons.mp hw with rfl | hw
      · exact .inl rfl
      · exact .inr (hpast w hw)
    · rintro _ ⟨⟩
      simp [countRequest, hzero]
    · exact Int.lt_add_of_pos_right now hmin
    · simpa [countRequest, hzero] using hlimit

end Fits

/-- The successful calls of `AcquireAgent` for a subject. -/
def accepted (subject : String) (x : Served Database LeaseCall) : Bool :=
  x.call.agentRequest.map Prod.fst = some subject && (x.reply serveLease).isOk

/-- The start of the rate window that a call leaves. -/
def windowAfter (digest : Digest) (x : Served Database LeaseCall) : ℤ :=
  ((x.after serveLease).limitOf digest).elim 0 AgentLimitRow.windowStartedAt

/-- The windows of the accepted requests of a subject at an instant of a run. -/
structure Windows (subject : String) (digest : Digest) (limit : ℕ) (t : Time)
    (history : List (Served Database LeaseCall)) (state : Database) : Prop where
  inside : ∀ x ∈ history.filter (accepted subject),
    windowAfter digest x ≤ x.call.context.databaseNow ∧
      x.call.context.databaseNow < windowAfter digest x + minute
  apart : (history.filter (accepted subject)).Pairwise fun y x =>
    windowAfter digest x = windowAfter digest y ∨
      windowAfter digest x + minute ≤ windowAfter digest y
  count : ∀ w, ((history.filter (accepted subject)).map (windowAfter digest)).count w ≤ limit
  fits : Fits t ((history.filter (accepted subject)).map (windowAfter digest)) (state.limitOf digest)

section Windows

variable {subject : String} {digest : Digest} {limit : ℕ} {init state : Database}
  {history : List (Served Database LeaseCall)} {call : LeaseCall}

theorem Windows.step (hdigest : subjectDigest "agent-lease" subject = .ok digest)
    (hlimit : ∀ agent n, call.agentRequest = some (agent, n) → n = limit)
    (h : Windows subject digest limit call.context.databaseNow history state) :
    Windows subject digest limit call.context.databaseNow (⟨state, call⟩ :: history)
      (serveLease state call).1 := by
  rcases limit_serveLease state call digest with ⟨hkept, hfailed⟩ | ⟨agent, n, hagent, hcounted⟩
  · have hnot : ¬ accepted subject ⟨state, call⟩ = true := by
      intro haccepted
      simp only [accepted, Bool.and_eq_true, decide_eq_true_eq, Option.map_eq_some_iff] at haccepted
      obtain ⟨⟨⟨agent, n⟩, hagent, rfl⟩, hok⟩ := haccepted
      exact Bool.false_ne_true ((hfailed agent n hagent hdigest).symm.trans hok)
    constructor <;> rw [List.filter_cons_of_neg hnot]
    · exact h.inside
    · exact h.apart
    · exact h.count
    · exact h.fits.kept hkept
  · obtain ⟨row, hrow, hfits, hinside, hapart, hcount⟩ := h.fits.count hcounted
    by_cases haccepted : accepted subject ⟨state, call⟩ = true
    · have hwindow : windowAfter digest ⟨state, call⟩ = row.windowStartedAt := by
        rw [windowAfter, Served.after, hrow, Option.elim_some]
      constructor <;> rw [List.filter_cons_of_pos haccepted]
      · intro x hx
        rcases List.mem_cons.mp hx with rfl | hx
        · rw [hwindow]
          exact hinside
        · exact h.inside x hx
      · refine List.Pairwise.cons (fun x hx => ?_) h.apart
        rw [hwindow]
        exact hapart _ (List.mem_map_of_mem hx)
      · intro w
        rw [List.map_cons, hwindow, List.count_cons]
        rw [hlimit agent n hagent] at hcount
        have hw := h.count w
        split
        next heq => grind
        next => omega
      · grind
    · -- The request was counted, but its reply was lost.
      constructor <;> rw [List.filter_cons_of_neg haccepted]
      · exact h.inside
      · exact h.apart
      · exact h.count
      · exact hfits.of_cons

variable (hdigest : subjectDigest "agent-lease" subject = .ok digest)
  (hrun : Run serveLease init history state) (hinit : init.agentLimits.rows = [])
  (horder : history.Pairwise fun y x => x.call.context.databaseNow ≤ y.call.context.databaseNow)
  (hlimit : ∀ x ∈ history, ∀ agent n, x.call.agentRequest = some (agent, n) → n = limit)
include hdigest hrun hinit horder hlimit

theorem windows_run (t : Time)
    (ht : ∀ x ∈ history, x.call.context.databaseNow ≤ t) :
    Windows subject digest limit t history state := by
  induction hrun generalizing t with
  | nil =>
    have hnone : init.limitOf digest = none := by
      rw [limitOf, Table.select, hinit, List.find?_nil]
    refine ⟨by simp, .nil, fun w => Nat.zero_le limit, ?_⟩
    rw [hnone]
    constructor <;> simp
  | @step history state call run ih =>
    obtain ⟨hnow, horder⟩ := List.pairwise_cons.mp horder
    have hbefore := ih horder (fun x hx => hlimit x (List.mem_cons_of_mem _ hx))
      call.context.databaseNow hnow
    have hafter := hbefore.step hdigest (hlimit _ List.mem_cons_self)
    exact ⟨hafter.inside, hafter.apart, hafter.count,
      hafter.fits.mono (ht _ List.mem_cons_self)⟩

theorem countP_accepted_le (start : Time) : history.countP (fun x => accepted subject x ∧ start ≤ x.call.context.databaseNow ∧
      x.call.context.databaseNow < start + minute) ≤ 2 * limit := by
  obtain ⟨t, ht⟩ : ∃ t : Time, ∀ x ∈ history, x.call.context.databaseNow ≤ t := by
    cases history with
    | nil => exact ⟨0, nofun⟩
    | cons last history =>
      refine ⟨last.call.context.databaseNow, fun x hx => ?_⟩
      rcases List.mem_cons.mp hx with rfl | hx
      · exact le_refl _
      · exact (List.pairwise_cons.mp horder).1 x hx
  have hwindows := windows_run hdigest hrun hinit horder hlimit t ht
  have hspan := countP_span_le start hwindows.inside hwindows.apart fun w => by
    have hcount := hwindows.count w
    rw [List.count, List.countP_map] at hcount
    exact le_of_eq_of_le (List.countP_congr fun x _ => by simp) hcount
  rw [List.countP_filter] at hspan
  exact le_of_eq_of_le (List.countP_congr fun x _ => by simp [and_comm]) hspan

end Windows

/-! ## Runs -/

/-- The kind of the lease that a call asks for, and the maximum that it gives. -/
def LeaseCall.globalMaximum : LeaseCall → Option (LeaseKind × ℤ)
  | .acquireVoice _ _ _ globalMaximum _ => some (.voiceLease, globalMaximum)
  | .acquireAgent _ _ _ _ globalMaximum _ => some (.agentLease, globalMaximum)
  | _ => none

/-- The identifier of the lease that a call asks to renew. -/
def LeaseCall.renewed : LeaseCall → Option (List UInt8)
  | .renew _ lease _ => some lease.leaseID
  | _ => none

/-- The identifier of the lease that a call asks to release. -/
def LeaseCall.released : LeaseCall → Option (List UInt8)
  | .release _ lease => some lease.leaseID
  | _ => none

/-- A call that fails and leaves the database as it was. -/
def Refused (x : Served Database LeaseCall) : Prop :=
  x.after serveLease = x.before ∧ (x.reply serveLease).isOk = false

variable {db : Database}

section Runs

variable {init state middle : Database} {leaseID : List UInt8} {t : Time}
  {history later earlier : List (Served Database LeaseCall)} {x : Served Database LeaseCall}

theorem held_le_one (db : Database) (t : Time) (kind : LeaseKind) (subject : Digest) :
    db.held t kind subject ≤ 1 := by
  have hnodup : (db.leases.rows.map LeaseRow.key).Nodup :=
    db.leases.nodup_key "runtime_coordination_leases_pkey" (by simp [leasesSchema])
  calc db.held t kind subject
      ≤ db.leases.rows.countP (fun row => row.key = (kind, subject)) := by
        refine List.countP_mono_left fun row _ hrow => ?_
        obtain ⟨hkind, hsubject, -⟩ := of_decide_eq_true hrow
        exact decide_eq_true (Prod.ext hkind hsubject)
    _ = (db.leases.rows.map LeaseRow.key).count (kind, subject) := by
        rw [List.count, List.countP_map]
        exact List.countP_congr fun row _ => by simp
    _ ≤ 1 := List.nodup_iff_count_le_one.mp hnodup _

theorem active_inserted (h : db.Inserted databaseNow kind leaseID globalMaximum next row) :
    (next.active databaseNow kind : ℤ) ≤ globalMaximum := by
  have hcount : next.active databaseNow kind ≤
      (db.pruneLeases databaseNow kind).active databaseNow kind + 1 := by
    rw [active, Table.count, h.rows, List.countP_append]
    exact Nat.add_le_add_left List.countP_le_length _
  have hbelow := h.below
  omega

theorem active_of_isOk {call : LeaseCall} {kind : LeaseKind} {globalMaximum : ℤ}
    (hmaximum : call.globalMaximum = some (kind, globalMaximum))
    (hok : (serveLease db call).2.isOk) :
    ((serveLease db call).1.active call.context.databaseNow kind : ℤ) ≤ globalMaximum := by
  have hacquires : ∀ {result : Database × Except Error Lease},
      Acquires call.context.databaseNow call.drawn kind globalMaximum db result →
        (result.2.map some).isOk → (result.1.active call.context.databaseNow kind : ℤ) ≤ globalMaximum := by
    rintro ⟨next, reply⟩ (⟨-, hfailed⟩ | ⟨leaseID, row, -, hinserted⟩) hok
    · cases reply with
      | error err => cases hok
      | ok lease => exact absurd rfl (hfailed lease)
    · exact active_inserted hinserted
  cases call with
  | acquireVoice context random subject maximum ttl =>
    cases hmaximum
    exact hacquires acquires_acquireVoice hok
  | acquireAgent context random subject requestsPerMinute maximum ttl =>
    cases hmaximum
    exact hacquires acquires_acquireAgent hok
  | _ => cases hmaximum

theorem refused_of_gone (hrun : Run serveLease middle later state) (hgone : middle.Gone leaseID t)
    (hnow : ∀ x ∈ later, t ≤ x.call.context.databaseNow) (hdrawn : ∀ x ∈ later, x.call.drawn ≠ some
    leaseID) (hx : x ∈ later) (hrenewed : x.call.renewed = some leaseID) : Refused x := by
  obtain ⟨after, before, rfl⟩ := List.append_of_mem hx
  have hbefore := gone_run hrun.split.1 hgone
    (fun y hy => hnow y (List.mem_append_right after (List.mem_cons_of_mem x hy)))
    fun y hy => hdrawn y (List.mem_append_right after (List.mem_cons_of_mem x hy))
  have hat := hnow x hx
  obtain ⟨db, call⟩ := x
  cases call with
  | renew context lease ttl =>
    cases hrenewed
    obtain ⟨hsame, hfailed⟩ := renew_of_gone hbefore hat
    refine ⟨hsame, ?_⟩
    simp only [Served.reply, serveLease]
    cases hreply : (renew context lease ttl db).2 with
    | error err => rfl
    | ok renewed => exact absurd hreply (hfailed renewed)
  | _ => cases hrenewed

theorem gone_of_released {call : LeaseCall} (t : Time)
    (hreleased : call.released = some leaseID) (hok : (serveLease db call).2.isOk) :
    (serveLease db call).1.Gone leaseID t ∧ ∃ row ∈ db.leases.rows, row.leaseID = leaseID := by
  cases call with
  | release context lease =>
    cases hreleased
    have hreply : (release context lease db).2 = .ok () := by
      simp only [serveLease] at hok
      cases hreply : (release context lease db).2 with
      | error err => rw [hreply] at hok; cases hok
      | ok _ => rfl
    obtain ⟨hfound, hnone⟩ := (release_cases lease).2.2 hreply
    exact ⟨fun row hrow hid => absurd hid (hnone row hrow), hfound⟩
  | _ => cases hreleased

theorem exists_digest_of_accepted {subject : String} (h : accepted subject x = true) :
    ∃ digest, subjectDigest "agent-lease" subject = .ok digest := by
  obtain ⟨db, call⟩ := x
  simp only [accepted, Bool.and_eq_true, decide_eq_true_eq, Option.map_eq_some_iff] at h
  obtain ⟨⟨⟨agent, n⟩, hagent, rfl⟩, hok⟩ := h
  cases call with
  | acquireAgent context random agent requestsPerMinute maximum ttl =>
    cases hagent
    cases hdigest : subjectDigest "agent-lease" agent with
    | ok digest => exact ⟨digest, rfl⟩
    | error err =>
      simp only [Served.reply, serveLease, acquireAgent, hdigest] at hok
      cases hok
  | _ => cases hagent

/-- The calls of any number of coordinators, from an empty database on, in the order of their
timestamps and with identifiers that are drawn once: a subject holds at most one lease of a kind, a
successful acquisition leaves at most the maximum of its kind, a lease that has expired or was released
is never renewed again, and no minute has more than twice the limit of accepted requests of an Agent
subject. -/
theorem runtime_leases (hleases : init.leases.rows = []) (hlimits : init.agentLimits.rows = [])
    (hrun : Run serveLease init history state) (horder : history.Pairwise fun y x =>
    x.call.context.databaseNow ≤ y.call.context.databaseNow) (hunique : history.Pairwise fun y x =>
    ∀ leaseID, x.call.drawn = some leaseID → y.call.drawn ≠ some leaseID) : (∀ t kind subject,
    state.held t kind subject ≤ 1) ∧ (∀ x ∈ history, ∀ kind globalMaximum, x.call.globalMaximum =
    some (kind, globalMaximum) → (x.reply serveLease).isOk → ((x.after serveLease).active
    x.call.context.databaseNow kind : ℤ) ≤ globalMaximum) ∧ (∀ later earlier middle leaseID t,
    history = later ++ earlier → Run serveLease init earlier middle → (∀ x ∈ later, t ≤
    x.call.context.databaseNow) → (∃ y ∈ earlier, y.call.drawn = some leaseID) → middle.Gone leaseID
    t → ∀ x ∈ later, x.call.renewed = some leaseID → Refused x) ∧ (∀ later y earlier leaseID,
    history = later ++ y :: earlier → y.call.released = some leaseID → (y.reply serveLease).isOk → ∀
    x ∈ later, x.call.renewed = some leaseID → Refused x) ∧ ∀ requestsPerMinute : ℕ, (∀ x ∈ history,
    ∀ agent n, x.call.agentRequest = some (agent, n) → n = requestsPerMinute) → ∀ subject start,
    history.countP (fun x => accepted subject x ∧ start ≤ x.call.context.databaseNow ∧
    x.call.context.databaseNow < start + minute) ≤ 2 * requestsPerMinute := by
  -- An identifier that was drawn once is not drawn again.
  have hfresh : ∀ {later earlier leaseID}, history = later ++ earlier →
      (∃ y ∈ earlier, y.call.drawn = some leaseID) → ∀ x ∈ later, x.call.drawn ≠ some leaseID := by
    grind
  refine ⟨held_le_one state, fun x _ kind globalMaximum => active_of_isOk, ?_, ?_, ?_⟩
  · intro later earlier middle leaseID t hsplit hearlier hnow hdrawn hgone x hx hrenewed
    subst hsplit
    obtain ⟨reached, hreached, hlater⟩ := run_append.mp hrun
    have hsame : reached = middle := hreached.state_unique hearlier
    subst hsame
    exact refused_of_gone hlater hgone hnow (hfresh rfl hdrawn) hx hrenewed
  · intro later y earlier leaseID hsplit hreleased hok x hx hrenewed
    subst hsplit
    obtain ⟨hearlier, hlater⟩ := hrun.split
    obtain ⟨hgone, row, hrow, hid⟩ :=
      gone_of_released y.call.context.databaseNow hreleased hok
    obtain ⟨z, hz, hdrawn⟩ := exists_drawn hearlier hleases row hrow
    have hnow : ∀ x ∈ later, y.call.context.databaseNow ≤ x.call.context.databaseNow :=
      fun x hx => (List.pairwise_append.mp horder).2.2 x hx y List.mem_cons_self
    exact refused_of_gone hlater hgone hnow
      (hfresh rfl ⟨z, List.mem_cons_of_mem y hz, hid ▸ hdrawn⟩) hx hrenewed
  · intro requestsPerMinute hlimit subject start
    by_cases hsome : ∃ x ∈ history, accepted subject x = true
    · obtain ⟨x, hx, haccepted⟩ := hsome
      obtain ⟨digest, hdigest⟩ := exists_digest_of_accepted haccepted
      exact countP_accepted_le hdigest hrun hlimits horder hlimit start
    · refine le_of_eq_of_le (List.countP_eq_zero.mpr fun x hx hcounted => ?_) (Nat.zero_le _)
      exact hsome ⟨x, hx, (of_decide_eq_true hcounted).1⟩

end Runs

namespace LeaseExample

/-- A call of a coordinator at a second of the clock, whose transaction commits. -/
def at_ (seconds : ℤ) : Context := ⟨"gateway-1", seconds * second, .reported⟩

def identifier (n : UInt8) : List UInt8 := List.replicate 16 n

/-- The lease of the first request. -/
def lease : Lease :=
  ⟨.agentLease, ((subjectDigest "agent-lease" "device-1").toOption.map digestText).getD "",
    identifier 2, "gateway-1", 30 * second⟩

/-- A voice session and two requests of an Agent, newest call first. The first request gives its lease
back. -/
def calls : List LeaseCall := [
  .renew (at_ 3) lease (30 * second),
  .acquireAgent (at_ 2) (identifier 3) "device-1" 6 4 (30 * second),
  .release (at_ 1) lease,
  .acquireAgent (at_ 0) (identifier 2) "device-1" 6 4 (30 * second),
  .acquireVoice (at_ 0) (identifier 1) "device-1" 8 (30 * second)]

end LeaseExample

open LeaseExample in
theorem runtime_leases_two_requests :
    (replay serveLease .empty calls).1.countP (fun x => accepted "device-1" x ∧
      0 ≤ x.call.context.databaseNow ∧ x.call.context.databaseNow < 0 + minute) ≤ 2 * 6 := by
  have horder : (replay serveLease .empty calls).1.Pairwise fun y x =>
      x.call.context.databaseNow ≤ y.call.context.databaseNow := by
    simp only [calls, replay, List.pairwise_cons]
    simp [LeaseCall.context, at_, Context.databaseNow, timestamptz, second, microsecond]
  have hunique : (replay serveLease .empty calls).1.Pairwise fun y x => ∀ leaseID,
      x.call.drawn = some leaseID → y.call.drawn ≠ some leaseID := by
    simp only [calls, replay, List.pairwise_cons]
    simp [LeaseCall.drawn, readFull, identifier, Except.toOption]
  refine (runtime_leases rfl rfl (run_replay serveLease .empty calls) horder hunique).2.2.2.2 6
    (fun x hx agent n hagent => ?_) "device-1" 0
  have hcall := call_mem_of_mem_replay hx
  simp only [calls, List.mem_cons, List.not_mem_nil, or_false] at hcall
  rcases hcall with h | h | h | h | h <;> rw [h] at hagent <;> cases hagent <;> rfl

end XiaozhiPlatform.Coordination
