import XiaozhiPlatform.Auth.Verifier

/-!
# Transitions between managed keyrings

The operator replaces the active key by deploying a new keyring to the verifiers first and switching
the issuer at the cutover. `ValidateManagedTokenTransition` checks a pair of keyrings before: a
rotation adds a new active key, a forward recovery makes a retiring key active again, and every other
key stays as it is.

- `Transition.Spec`: what an accepted pair is like.
- `managed_transition_keeps_tokens`: the verifiers with the new keyring accept the tokens of both
  active keys for their whole life if and only if the name of the key has no dot and the clock of the
  issuer is past the first second of 1970, and the tokens of the other keys as long as before.
- `dotted_key_tokens_rejected`: the tokens of a key with a dot in its name are never accepted.
-/

namespace XiaozhiPlatform.Token

open GoLib Auth

/-! ## Model -/

inductive Transition where
  | rotate
  | forwardRecovery
deriving DecidableEq, Repr

def Transition.ofText (text : String) : Option Transition :=
  if text = "rotate" then some .rotate
  else if text = "forward-recovery" then some .forwardRecovery else none

def managedTokenTransitionSkew : ℤ := 30 * second

structure Summary where
  transition : String
  currentRevision : UInt64
  targetRevision : UInt64
  currentActiveKeyID : String
  targetActiveKeyID : String
  cutoverUnix : ℤ
  minimumDrainUntilUnix : ℤ
  oldKeyVerifyUntilUnix : ℤ
deriving DecidableEq, Repr

/-- `sameManagedSecret`. -/
def SameManagedSecret (left right : List UInt8) : Prop := 32 ≤ left.length ∧ left = right
deriving Decidable

namespace Transition

variable (current target : Keyring)

/-- The three keys that the lineage is about: the active keys and the former one in the target. -/
structure Lineage where
  currentActive : Key
  targetActive : Key
  oldInTarget : Key

def lineage : Except Error Lineage :=
  match current.keys[current.activeKeyID]?, target.keys[target.activeKeyID]?,
      target.keys[current.activeKeyID]? with
  | some currentActive, some targetActive, some oldInTarget => do
    failIf (currentActive.state ≠ .active ∨ targetActive.state ≠ .active ∨
      oldInTarget.state ≠ .retiring ∨
      ¬ SameManagedSecret currentActive.secret oldInTarget.secret)
      (.text "managed token transition active-key lineage is invalid")
    return ⟨currentActive, targetActive, oldInTarget⟩
  | _, _, _ => .error (.text "managed token transition active-key lineage is invalid")

/-- The `switch` on the kind of the transition. -/
def checkKind (transition : Transition) (targetActive : Key) : Except Error Unit :=
  match transition with
  | .rotate =>
    failIf (target.activeKeyID ∈ current.keys ∨ target.keys.size ≠ current.keys.size + 1)
      (.text "managed token rotation requires one new active key")
  | .forwardRecovery =>
    failIf (¬ ∃ prior ∈ current.keys[target.activeKeyID]?, prior.state = .retiring ∧
      current.legacyUnkeyedKeyID ≠ target.activeKeyID ∧ target.keys.size = current.keys.size ∧
      SameManagedSecret prior.secret targetActive.secret ∧
      prior.verifyUntil ≤ targetActive.verifyUntil)
      (.text "managed token forward recovery lineage is invalid")

/-- The loop body for one key of the current keyring. -/
def checkKey (transition : Transition) (cutover : Time) (entry : String × Key) : Except Error Unit :=
  match target.keys[entry.1]? with
  | none => .error (.text "managed token transition dropped or replaced a current key")
  | some targetKey => do
    failIf (¬ SameManagedSecret entry.2.secret targetKey.secret)
      (.text "managed token transition dropped or replaced a current key")
    if entry.1 = current.activeKeyID then
      failIf (targetKey.state ≠ .retiring ∨ targetKey.issueBefore ≠ cutover ∨
        targetKey.verifyUntil ≠ entry.2.verifyUntil)
        (.text "managed token transition changed the current active key unsafely")
    else if transition = .forwardRecovery ∧ entry.1 = target.activeKeyID then
      failIf (targetKey.state ≠ .active ∨ targetKey.issueBefore ≠ zeroTime ∨
        targetKey.verifyUntil < entry.2.verifyUntil)
        (.text "managed token recovery target is invalid")
    else
      failIf (targetKey.state ≠ entry.2.state ∨ targetKey.issueBefore ≠ entry.2.issueBefore ∨
        targetKey.verifyUntil ≠ entry.2.verifyUntil)
        (.text "managed token transition changed an existing retiring key")

end Transition

open Transition in
/-- `ValidateManagedTokenTransition`. The keys are checked in the order of their names; Go takes them
in any order, which only decides which of several errors is reported. -/
def validateManagedTokenTransition (current target : Keyring) (transition : String) (maxTTL : ℤ)
    (now : Time) : Except Error Summary :=
  match Transition.ofText transition with
  | none => .error (.text "managed token transition configuration is invalid")
  | some kind => do
    failIf (now = zeroTime ∨ maxTTL < minimumIssuedTTL ∨ maximumIssuedTTL < maxTTL)
      (.text "managed token transition configuration is invalid")
    failIf (target.revision ≤ current.revision)
      (.text "managed token transition revision must move forward")
    let ⟨currentActive, targetActive, oldInTarget⟩ ← lineage current target
    let cutover := oldInTarget.issueBefore
    let minimumDrain := cutover + (maxTTL + managedTokenTransitionSkew)
    failIf (¬ now + managedTokenTransitionSkew < cutover ∨ currentActive.verifyUntil < minimumDrain ∨
      oldInTarget.verifyUntil < minimumDrain ∨ targetActive.verifyUntil < minimumDrain ∨
      oldInTarget.verifyUntil < currentActive.verifyUntil)
      (.text "managed token transition cutover window is unsafe")
    checkKind current target kind targetActive
    failIf (current.legacyUnkeyedKeyID ≠ target.legacyUnkeyedKeyID ∨
      current.legacyVerifyUntil ≠ target.legacyVerifyUntil)
      (.text "managed token transition cannot alter legacy migration")
    current.keys.toList.forM (checkKey current target kind cutover)
    return ⟨transition, current.revision, target.revision, current.activeKeyID, target.activeKeyID,
      unix cutover, unix minimumDrain, unix oldInTarget.verifyUntil⟩

/-! ## Accepted pairs -/

theorem forM_eq_ok {α : Type} {f : α → Except Error Unit} {items : List α} (h : items.forM f = .ok ()) :
    ∀ item ∈ items, f item = .ok () := by
  induction items with
  | nil => simp
  | cons item items ih =>
    have h : (f item >>= fun _ => items.forM f) = .ok () := h
    rw [bind_eq_ok] at h
    obtain ⟨_, hitem, hitems⟩ := h
    exact List.forall_mem_cons.mpr ⟨hitem, ih hitems⟩

/-- What an accepted pair of keyrings is like. -/
structure Transition.Spec (current target : Keyring) (maxTTL : ℤ) (cutover : Time) : Prop where
  /-- The active key becomes a retiring one that outlives the tokens issued before the cutover. -/
  handover : ∃ active old, current.keys[current.activeKeyID]? = some active ∧
    target.keys[current.activeKeyID]? = some old ∧ old.secret = active.secret ∧
    old.state = .retiring ∧ old.issueBefore = cutover ∧
    cutover + (maxTTL + 30 * second) ≤ old.verifyUntil
  legacyKey : target.legacyUnkeyedKeyID = current.legacyUnkeyedKeyID
  legacyUntil : target.legacyVerifyUntil = current.legacyVerifyUntil
  /-- Another key keeps its window or, in a forward recovery, becomes the active key. -/
  others : ∀ (id : String) (key : Key), current.keys[id]? = some key → id ≠ current.activeKeyID →
    ∃ later, target.keys[id]? = some later ∧ later.secret = key.secret ∧
      ((later.state = key.state ∧ later.issueBefore = key.issueBefore ∧
        later.verifyUntil = key.verifyUntil) ∨
      (id = target.activeKeyID ∧ current.legacyUnkeyedKeyID ≠ id ∧ later.state = .active ∧
        key.verifyUntil ≤ later.verifyUntil))

variable {id : String} {key : Key} {target current : Keyring}

namespace Transition

theorem lineage_eq_ok (h : lineage current target = .ok
    keys) : current.keys[current.activeKeyID]? = some keys.currentActive ∧
    target.keys[target.activeKeyID]? = some keys.targetActive ∧ target.keys[current.activeKeyID]? =
    some keys.oldInTarget ∧ keys.oldInTarget.state = .retiring ∧ keys.oldInTarget.secret =
    keys.currentActive.secret := by
  unfold lineage at h
  split at h
  next hcurrent htarget hold =>
    simp only [failIf_bind_eq_ok, not_or, not_not, ne_eq] at h
    obtain ⟨⟨-, -, hretiring, hsecret⟩, hkeys⟩ := h
    obtain rfl := Except.ok.inj hkeys
    exact ⟨hcurrent, htarget, hold, hretiring, hsecret.2.symm⟩
  next => cases h

end Transition

theorem spec_validateManagedTokenTransition {transition : String}
    {maxTTL : ℤ} {now : Time} {summary : Summary}
    (h : validateManagedTokenTransition current target transition maxTTL now = .ok summary) :
    ∃ cutover, summary.cutoverUnix = unix cutover ∧ Transition.Spec current target maxTTL cutover
    := by
  unfold validateManagedTokenTransition at h
  split at h
  next => cases h
  next kind _ =>
    simp only [bind_eq_ok, failIf_eq_ok, not_or, not_not, ne_eq, Unique.exists_iff,
      PUnit.default_eq_unit] at h
    obtain ⟨-, -, keys, hlineage, hwindow, hkind, hlegacy, hkeys, hsummary⟩ := h
    obtain ⟨hactive, -, hold, hretiring, hsecret⟩ := Transition.lineage_eq_ok hlineage
    obtain rfl := Except.ok.inj hsummary
    refine ⟨keys.oldInTarget.issueBefore, rfl, ⟨keys.currentActive, keys.oldInTarget, hactive, hold,
      hsecret, hretiring, rfl, not_lt.mp hwindow.2.2.1⟩, hlegacy.1.symm, hlegacy.2.symm, ?_⟩
    intro id key hkey hid
    have hchecked :=
      forM_eq_ok hkeys _ (Std.ExtTreeMap.mem_toList_iff_getElem?_eq_some.mpr hkey)
    unfold Transition.checkKey at hchecked
    split at hchecked
    next => cases hchecked
    next later hlater =>
      simp only [failIf_bind_eq_ok, not_not] at hchecked
      obtain ⟨hmaterial, hchecked⟩ := hchecked
      refine ⟨later, hlater, hmaterial.2.symm, ?_⟩
      rw [if_neg hid] at hchecked
      split at hchecked
      next hrecovery => grind [Transition.checkKind, failIf_eq_ok]
      next => grind [failIf_eq_ok]

/-! ## Verifiers with the current and with the target keyring -/

/-- The key that a token is verified with. -/
def tokenKeyID (keyring : Keyring) (token : String) : Option String :=
  match token.toList.splitOn '.' with
  | [_, id, _, _] => some (String.ofList id)
  | [_, _, _] => some keyring.legacyUnkeyedKeyID
  | _ => none

/-- A verifier of a managed keyring. -/
def managedVerifier (keyring : Keyring) (maxTTL : ℤ) (audience : String) : Verifier :=
  ⟨[], some keyring, audience, maxTTL, 30 * second⟩

variable {keyring : Keyring}

theorem newManagedKeyringVerifierForAudience_eq_ok (h : newManagedKeyringVerifierForAudience keyring
    maxTTL audience now = .ok verifier) : verifier = managedVerifier keyring maxTTL audience := by
  simp only [newManagedKeyringVerifierForAudience, failIf_bind_eq_ok] at h
  exact (Except.ok.inj h.2.2.2).symm

variable {claims : Claims} {token : String}

section Keyrings

variable {current target : Keyring} {maxTTL : ℤ} {audience : String} {now : Time}

theorem check_managedVerifier (hlegacy : target.legacyVerifyUntil = current.legacyVerifyUntil)
    (selected : Selected) : (managedVerifier target maxTTL audience).check now selected =
    (managedVerifier current maxTTL audience).check now selected := by
  have haccept : (managedVerifier target maxTTL audience).accept selected =
      (managedVerifier current maxTTL audience).accept selected := by
    funext claims
    simp only [Verifier.accept, Verifier.Retired, managedVerifier, Option.mem_some_iff,
      exists_eq_left', hlegacy]
  simp only [Verifier.check, haccept]
  rfl

theorem verify_of_same_key (hlegacyKey : target.legacyUnkeyedKeyID = current.legacyUnkeyedKeyID)
    (hlegacyUntil : target.legacyVerifyUntil = current.legacyVerifyUntil)
    (hid : tokenKeyID current token = some id) (hkey : target.keys[id]? = current.keys[id]?) :
    (managedVerifier target maxTTL audience).verify now token =
      (managedVerifier current maxTTL audience).verify now token := by
  have hselect : (managedVerifier target maxTTL audience).select now (token.toList.splitOn '.') =
      (managedVerifier current maxTTL audience).select now (token.toList.splitOn '.') := by
    unfold tokenKeyID at hid
    unfold Verifier.select
    split at hid
    next hparts =>
      obtain rfl := Option.some.inj hid
      simp only [hparts, managedVerifier, Verifier.selectKeyed, hkey]
    next hparts =>
      obtain rfl := Option.some.inj hid
      simp only [hparts, managedVerifier, Verifier.selectUnkeyed, Verifier.legacyKey, hlegacyKey,
        hlegacyUntil, hkey]
    next => cases hid
  simp only [Verifier.verify, hselect, check_managedVerifier hlegacyUntil]

/-- A retiring key that is made active again: what its tokens are checked for does not get
stricter. -/
theorem check_of_recovered
    (hkey : selected.key = some key) (hid : later.id = key.id) (hsecret : later.secret = key.secret)
    (hstate : later.state = .active)
    (huntil : key.verifyUntil ≤ later.verifyUntil)
    (h : (managedVerifier current maxTTL audience).check now selected = .ok claims) :
    (managedVerifier target maxTTL audience).check now { selected with key := some later } =
      .ok claims := by
  obtain ⟨payload, signature, decoded, hpayload, hsignature, hlength, hnow, hvalid, hdecoded, hclaims,
    hretired, rfl⟩ := (Verifier.check_eq_ok hkey).mp h
  refine (Verifier.check_eq_ok rfl).mpr ⟨payload, signature, decoded, hpayload, hsignature, hlength,
    hnow.trans_le huntil, .inl ⟨later, rfl, ?_⟩, hdecoded, hclaims, ?_, by rw [hid]⟩
  · rcases hvalid with ⟨found, hfound, hmac⟩ | ⟨secret, hsecret, -⟩
    · grind
    · cases hsecret
  · rintro (hexpired | ⟨hretiring, -⟩)
    · have hle : unix key.verifyUntil ≤ unix later.verifyUntil := Int.ediv_le_ediv (by decide) huntil
      exact hretired (.inl (lt_of_le_of_lt hle hexpired))
    · grind

/-- A token that was issued before the key was retired, and that ends with the tolerance before the
key does, is not accepted any longer than before. -/
theorem check_of_retiring
    (hkey : selected.key = some key) (hlegacy : selected.legacyManaged = false)
    (hid : later.id = key.id) (hsecret : later.secret = key.secret)
    (hissued : claims.issuedAt < unix key.issueBefore)
    (hexpires : claims.expires + 30 ≤ unix key.verifyUntil)
    (h : (managedVerifier target maxTTL audience).check now { selected with key := some later } =
      .ok claims) :
    (managedVerifier current maxTTL audience).check now selected = .ok claims := by
  obtain ⟨payload, signature, decoded, hpayload, hsignature, hlength, -, hvalid, hdecoded, hclaims,
    -, rfl⟩ := (Verifier.check_eq_ok rfl).mp h
  have hlive : unix now - 30 < decoded.expires := (validateClaims_eq_ok.mp hclaims).2.2.1
  have hnow : now < key.verifyUntil := by
    have hexpires : decoded.expires + 30 ≤ unix key.verifyUntil := hexpires
    by_contra hge
    have hle : unix key.verifyUntil ≤ unix now := Int.ediv_le_ediv (by decide) (not_lt.mp hge)
    omega
  refine (Verifier.check_eq_ok hkey).mpr ⟨payload, signature, decoded, hpayload, hsignature, hlength,
    hnow, .inl ⟨key, hkey, ?_⟩, hdecoded, hclaims, ?_, by rw [hid]⟩
  · rcases hvalid with ⟨found, hfound, hmac⟩ | ⟨secret, hsecret, -⟩
    · grind
    · cases hsecret
  · rintro (hexpired | ⟨-, hbefore | ⟨hmanaged, -⟩⟩)
    · grind
    · exact absurd hissued (not_lt.mpr hbefore)
    · rw [hlegacy] at hmanaged
      cases hmanaged

variable (maxTTL audience now) in
theorem select_of_named_key {id token : String} {key later : Key}
    (hid : tokenKeyID current token = some id) (hlegacy : current.legacyUnkeyedKeyID ≠ id)
    (hkey : current.keys[id]? = some key) (hlater : target.keys[id]? = some later) :
    (∃ error, (managedVerifier current maxTTL audience).select now (token.toList.splitOn '.') =
        .error error ∧
      (managedVerifier target maxTTL audience).select now (token.toList.splitOn '.') = .error error) ∨
    ∃ selected : Selected, selected.key = some key ∧ selected.legacyManaged = false ∧
      (managedVerifier current maxTTL audience).select now (token.toList.splitOn '.') = .ok selected ∧
      (managedVerifier target maxTTL audience).select now (token.toList.splitOn '.') =
        .ok { selected with key := some later } := by
  unfold tokenKeyID at hid
  split at hid
  next text name payload signature hparts =>
    obtain rfl := Option.some.inj hid
    simp only [hparts, Verifier.select, managedVerifier, Verifier.selectKeyed, hkey, hlater]
    cases Verifier.keyedVersion text with
    | none => exact .inl ⟨_, rfl, rfl⟩
    | some version =>
      by_cases hinvalid : ¬ ValidIdentifier (String.ofList name) 64 ∨ payload = [] ∨ signature = []
      · simp only [failIf_of_pos hinvalid, error_bind]
        exact .inl ⟨_, rfl, rfl⟩
      · simp only [failIf_of_neg hinvalid, ok_bind]
        exact .inr ⟨_, rfl, rfl, rfl, rfl⟩
  next => exact absurd (Option.some.inj hid) hlegacy
  next => cases hid

end Keyrings

/-! ## Tokens across a transition -/

/-- The tokens that an issuer of a keyring returns, with the instant and the claims. -/
def IssuedUnder (keyring : Keyring) (ttl : ℤ) (audience : String) (issuedAt : Time) (token : String)
    (claims : Claims) : Prop :=
  ∃ builtAt issuer random request, newManagedIssuerForAudience keyring ttl audience builtAt = .ok issuer ∧
    issuer.issueRequest issuedAt random request = .ok (token, claims)

/-- The token is accepted with its claims from the moment it is issued until it expires. -/
def AcceptedThroughout (verifier : Verifier) (issuedAt : ℤ) (token : String) (claims : Claims) :
    Prop :=
  ∀ now : ℤ, issuedAt ≤ now → now ≤ claims.expires * second → verifier.verify now token = .ok claims

theorem newManagedIssuerForAudience_eq_ok
    (h : newManagedIssuerForAudience keyring ttl audience now = .ok issuer) :
    ∃ key, keyring.keys[keyring.activeKeyID]? = some key ∧ issuer.secret = key.secret ∧
      issuer.keyID = key.id ∧ issuer.verifyUntil = key.verifyUntil ∧ issuer.managed = true ∧
      issuer.ttl = ttl ∧ issuer.audience = audience := by
  simp only [newManagedIssuerForAudience, failIf_bind_eq_ok] at h
  obtain ⟨-, h⟩ := h
  split at h
  next => cases h
  next key hkey =>
    simp only [newIssuerForAudience, bind_eq_ok, failIf_eq_ok, Unique.exists_iff] at h
    obtain ⟨-, plain, ⟨-, -, -, hplain⟩, -, hissuer⟩ := h
    obtain rfl := Except.ok.inj hplain
    obtain rfl := Except.ok.inj hissuer
    exact ⟨key, hkey, rfl, rfl, rfl, rfl, rfl, rfl⟩

variable {issuedAt : ℤ}

/-- A verifier whose keyring holds the key of the issuer for long enough accepts its tokens for their
whole life if and only if the name of the key has no dot and the clock of the issuer is positive. -/
theorem acceptedThroughout_iff (hissued : Issued issuer issuedAt token claims) (hmanaged
    : issuer.managed = true) (hkey : target.keys[issuer.keyID]? = some key) (hsound : key.Sound
    target.activeKeyID issuer.keyID) (hsecret : key.secret = issuer.secret) (hwhole : issuer.ttl %
    second = 0) (hmax : issuer.ttl ≤ maxTTL) (hexpires : claims.expires * second + 30 * second ≤
    key.verifyUntil) (hbefore : key.state = .retiring → claims.issuedAt < unix key.issueBefore) :
    AcceptedThroughout (managedVerifier target maxTTL issuer.audience) issuedAt token claims ↔ '.' ∉
    issuer.keyID.toList ∧ 0 < unix issuedAt := by
  have hiat : claims.issuedAt = issuedAt / 1000000000 := hissued.issuedAt
  have hshort : 60 ≤ claims.expires - claims.issuedAt := hissued.lifetime
  constructor
  · intro haccepted
    have hfirst := haccepted issuedAt (le_refl _) (by simp only [second]; omega)
    have hdot : '.' ∉ issuer.keyID.toList := by
      intro hdot
      rw [Verifier.verify_of_dot_mem hmanaged hdot hissued.token_eq] at hfirst
      cases hfirst
    refine ⟨hdot, ?_⟩
    -- The token is taken apart, so its claims were validated.
    rw [Verifier.verify, failIf_bind_eq_ok, hissued.token_eq,
      Verifier.select_issued hmanaged hdot (hissued.managed hmanaged).1 rfl hkey, ok_bind] at hfirst
    obtain ⟨_, _, decoded, -, -, -, -, -, -, hvalid, -, rfl⟩ :=
      (Verifier.check_eq_ok rfl).mp hfirst.2
    exact hissued.issuedAt ▸ (validateClaims_eq_ok.mp hvalid).1.2.1
  · rintro ⟨hdot, hpositive⟩ now hfrom hto
    obtain ⟨seconds, hmanagedTime, huntil⟩ := hsound.verifyUntil
    have hlast : claims.expires ≤ (issuedAt + issuer.ttl) / 1000000000 := hissued.expires_le
    simp only [second] at hto
    simp only [huntil, second] at hexpires
    have hseconds : seconds < 4102444800 := hmanagedTime.2
    have hunix : unix key.verifyUntil = seconds := by
      rw [huntil, unix, Int.mul_ediv_cancel _ (by decide)]
    simp only [second] at hwhole
    refine Verifier.verify_issued hissued ⟨rfl, ?_, ?_, ?_, ?_, ?_⟩ hmanaged hdot rfl hkey hsound.id_eq
      hsecret ?_ ?_
    · show claims.expires - claims.issuedAt ≤ maxTTL / 1000000000
      omega
    · rw [hissued.issuedAt]
      exact hpositive
    · omega
    · show claims.issuedAt ≤ now / 1000000000 + 30
      omega
    · show now / 1000000000 - 30 < claims.expires
      omega
    · show now < key.verifyUntil
      rw [huntil, second]
      omega
    · rintro (hover | ⟨hretiring, hlate | ⟨hlegacy, -⟩⟩)
      · grind
      · grind
      · cases hlegacy

/-- A keyring that the builder returned for some document. -/
def Built (keyring : Keyring) : Prop :=
  ∃ document minimumRevision now, buildManagedTokenKeyring document minimumRevision now = .ok keyring

theorem Built.sound (h : Built keyring) : keyring.Sound := by
  obtain ⟨document, minimumRevision, now, hbuild⟩ := h
  exact sound_buildManagedTokenKeyring hbuild

section Tokens

variable {current target : Keyring} {maxTTL ttl : ℤ} {audience token : String} {claims : Claims}

theorem Transition.Spec.current_tokens {cutover : ℤ} (hspec : Spec current target maxTTL cutover)
    (hcurrent : current.Sound) (htarget : target.Sound) (hwhole : ttl % second = 0)
    (hmax : ttl ≤ maxTTL)
    (hissued : IssuedUnder current ttl audience issuedAt token claims)
    (hearly : issuedAt < cutover) :
    AcceptedThroughout (managedVerifier target maxTTL audience) issuedAt token claims ↔
      '.' ∉ current.activeKeyID.toList ∧ 0 < unix issuedAt := by
  obtain ⟨builtAt, issuer, random, request, hissuer, hrequest⟩ := hissued
  obtain ⟨active, old, hactive, hold, hsecret, hretiring, hbefore, hdrain⟩ := hspec.handover
  obtain ⟨key, hkey, hmaterial, hkeyID, -, hmanaged, rfl, rfl⟩ := newManagedIssuerForAudience_eq_ok hissuer
  obtain rfl := Option.some.inj (hactive.symm.trans hkey)
  have hid : current.activeKeyID = issuer.keyID :=
    (hcurrent.keys _ _ hactive).id_eq.symm.trans hkeyID.symm
  have hissued := issued_issueRequest hrequest
  have hsound := htarget.keys _ _ hold
  obtain ⟨-, seconds, -, hseconds⟩ := hsound.retiring hretiring
  rw [hid] at hold hsound ⊢
  have hlast : claims.expires ≤ (issuedAt + issuer.ttl) / 1000000000 := hissued.expires_le
  have hcutover : cutover = seconds * 1000000000 := hbefore.symm.trans hseconds
  refine acceptedThroughout_iff hissued hmanaged hold hsound (hsecret.trans hmaterial.symm) hwhole hmax
    ?_ fun _ => ?_
  · -- The expiry is at most the lifetime after the cutover, and the key is kept for the tolerance more.
    refine le_trans ?_ hdrain
    show claims.expires * 1000000000 + 30 * 1000000000 ≤ cutover + (maxTTL + 30 * 1000000000)
    omega
  · rw [hissued.issuedAt, hbefore]
    show issuedAt / 1000000000 < cutover / 1000000000
    omega

theorem target_tokens (htarget : target.Sound) (hwhole : ttl % second = 0)
    (hmax : ttl ≤ maxTTL) (hissued : IssuedUnder target ttl audience issuedAt token claims) :
    AcceptedThroughout (managedVerifier target maxTTL audience) issuedAt token claims ↔
      '.' ∉ target.activeKeyID.toList ∧ 0 < unix issuedAt := by
  obtain ⟨builtAt, issuer, random, request, hissuer, hrequest⟩ := hissued
  obtain ⟨key, hkey, hmaterial, hkeyID, huntil, hmanaged, rfl, rfl⟩ :=
    newManagedIssuerForAudience_eq_ok hissuer
  have hissued := issued_issueRequest hrequest
  have hsound := htarget.keys _ _ hkey
  have hid : target.activeKeyID = issuer.keyID := hsound.id_eq.symm.trans hkeyID.symm
  have hactive : key.state ≠ .retiring := fun hretiring => (hsound.retiring hretiring).1 rfl
  have hexpires := (hissued.managed hmanaged).2
  rw [huntil] at hexpires
  have hkeyID' : target.keys[issuer.keyID]? = some key := hid ▸ hkey
  have hsound' : key.Sound target.activeKeyID issuer.keyID := by
    rw [← hid]
    exact hsound
  rw [hid]
  exact acceptedThroughout_iff hissued hmanaged hkeyID' hsound' hmaterial.symm hwhole hmax hexpires
    fun hretiring => absurd hretiring hactive

theorem Transition.Spec.retiring_tokens (hspec : Spec current target maxTTL
    cutover) (hcurrent : current.Sound) (htarget : target.Sound) (hkey :
    current.keys[id]? = some key) (hretiring : key.state = .retiring) (hid : tokenKeyID current
    token = some id) (now : Time) : (id ≠ target.activeKeyID → (managedVerifier target maxTTL
    audience).verify now token = (managedVerifier current maxTTL audience).verify now token) ∧
    ((managedVerifier current maxTTL audience).verify now token = .ok claims → (managedVerifier
    target maxTTL audience).verify now token = .ok claims) ∧ (claims.issuedAt < unix key.issueBefore
    → claims.expires + 30 ≤ unix key.verifyUntil → (managedVerifier target maxTTL audience).verify
    now token = .ok claims → (managedVerifier current maxTTL audience).verify now token = .ok
    claims) := by
  have hother : id ≠ current.activeKeyID := ((hcurrent.keys _ _ hkey).retiring hretiring).1
  obtain ⟨later, hlater, hsecret, hcase⟩ := hspec.others id key hkey hother
  have hname : later.id = key.id :=
    (htarget.keys _ _ hlater).id_eq.trans (hcurrent.keys _ _ hkey).id_eq.symm
  rcases hcase with ⟨hstate, hissue, hverify⟩ | ⟨hactive, hlegacy, hstate, huntil⟩
  · -- The key is the same in both keyrings.
    have hsame : later = key := by
      cases later
      cases key
      simp_all
    have hverify : (managedVerifier target maxTTL audience).verify now token =
        (managedVerifier current maxTTL audience).verify now token :=
      verify_of_same_key hspec.legacyKey hspec.legacyUntil hid (by rw [hlater, hkey, hsame])
    exact ⟨fun _ => hverify, fun h => hverify.trans h, fun _ _ h => hverify.symm.trans h⟩
  · -- The key is made active again: its tokens are accepted at least as long as before.
    refine ⟨fun hne => absurd hactive hne, ?_⟩
    simp only [Verifier.verify, failIf_bind_eq_ok]
    rcases select_of_named_key maxTTL audience now hid hlegacy hkey hlater with
      ⟨error, hcurrent, htarget⟩ | ⟨selected, hselected, hunkeyed, hcurrent, htarget⟩
    · simp [hcurrent, htarget, error_bind]
    · grind [ok_bind, check_of_recovered, check_of_retiring]

end Tokens

/-- For an accepted pair of keyrings, a verifier with the target keyring accepts each token that was
issued under the current active key before the cutover, and each token issued under the target's
active key, for its whole life if and only if the name of the key has no dot and the issuer's clock
was past the first second of 1970. For a key that was retiring before, it gives the result of a
verifier with the current keyring; where the key is made active again, it accepts every token that
the other one accepts, and of the tokens that were issued before the key was retired, with an expiry
that leaves the tolerance, no others. -/
theorem managed_transition_keeps_tokens {current target : Keyring} (hcurrent : Built current)
    (htarget : Built target) {transition : String} {maxTTL : ℤ} {checkedAt : Time} {summary :
    Summary} (h : validateManagedTokenTransition current target transition maxTTL checkedAt = .ok
    summary) {ttl : ℤ} (hwhole : ttl % second = 0) (hmax : ttl ≤ maxTTL) {audience : String}
    {verifierAt : Time} {verifier : Verifier} (hverifier : newManagedKeyringVerifierForAudience
    target maxTTL audience verifierAt = .ok verifier) : (∀ (issuedAt : ℤ) (token : String) (claims :
    Claims), IssuedUnder current ttl audience issuedAt token claims → issuedAt < summary.cutoverUnix
    * second → (AcceptedThroughout verifier issuedAt token claims ↔ '.' ∉ current.activeKeyID.toList
    ∧ 0 < unix issuedAt)) ∧ (∀ (issuedAt : ℤ) (token : String) (claims : Claims), IssuedUnder target
    ttl audience issuedAt token claims → (AcceptedThroughout verifier issuedAt token claims ↔ '.' ∉
    target.activeKeyID.toList ∧ 0 < unix issuedAt)) ∧ (∀ (beforeAt : Time) (before : Verifier),
    newManagedKeyringVerifierForAudience current maxTTL audience beforeAt = .ok before → ∀ (id token
    : String) (key : Key), current.keys[id]? = some key → key.state = .retiring → tokenKeyID current
    token = some id → ∀ (now : Time) (claims : Claims), (id ≠ target.activeKeyID → verifier.verify
    now token = before.verify now token) ∧ (before.verify now token = .ok claims → verifier.verify
    now token = .ok claims) ∧ (claims.issuedAt < unix key.issueBefore → claims.expires + 30 ≤ unix
    key.verifyUntil → verifier.verify now token = .ok claims → before.verify now token = .ok
    claims)) := by
  obtain ⟨cutover, hcutover, hspec⟩ := spec_validateManagedTokenTransition h
  obtain rfl := newManagedKeyringVerifierForAudience_eq_ok hverifier
  refine ⟨fun issuedAt token claims hissued hearly => ?_, fun issuedAt token claims hissued =>
    target_tokens htarget.sound hwhole hmax hissued, fun beforeAt before hbefore id token key hkey
      hretiring hid now claims => ?_⟩
  · refine hspec.current_tokens hcurrent.sound htarget.sound hwhole hmax hissued (hearly.trans_le ?_)
    rw [hcutover]
    exact Int.ediv_mul_le cutover (by decide)
  · obtain rfl := newManagedKeyringVerifierForAudience_eq_ok hbefore
    exact hspec.retiring_tokens hcurrent.sound htarget.sound hkey hretiring hid now

/-! ## A rotation -/

/-- The keyring with one key, and the one that retires it in favour of another. -/
def exampleDocuments (old new : String) : Document × Document :=
  let oldSecret := Base64.encodeToString (List.replicate 32 1)
  let newSecret := Base64.encodeToString (List.replicate 32 2)
  (⟨managedTokenKeyringSchema, 1, old, "", 0, [⟨old, oldSecret, "active", 0, 2000000000⟩]⟩,
    ⟨managedTokenKeyringSchema, 2, new, "", 0,
      [⟨old, oldSecret, "retiring", 1900001000, 2000000000⟩, ⟨new, newSecret, "active", 0, 2000000000⟩]⟩)

/-- The keyrings are built, the transition is accepted and a token of the old key is issued. -/
def exampleRotation (old new : String) :
    Except Error (Keyring × Keyring × Summary × Verifier × Issuer × String × Claims) := do
  let now := 1900000000 * second
  let current ← buildManagedTokenKeyring (exampleDocuments old new).1 1 now
  let target ← buildManagedTokenKeyring (exampleDocuments old new).2 1 now
  let summary ← validateManagedTokenTransition current target "rotate" minute now
  let verifier ← newManagedKeyringVerifierForAudience target minute "bench" now
  let issuer ← newManagedIssuerForAudience current minute "bench" now
  let issued ← issuer.issueRequest now (List.replicate 16 0) (.issue "speaker")
  return (current, target, summary, verifier, issuer, issued)

theorem exampleRotation_eq_ok (old new : String) (h : (exampleRotation old new).toOption.map
      (fun rotation => (rotation.1.activeKeyID, rotation.2.2.1.cutoverUnix)) =
        some (old, 1900001000)) :
    ∃ current target summary verifier issuer random request token claims,
      Built current ∧ Built target ∧
      validateManagedTokenTransition current target "rotate" minute (1900000000 * second) =
        .ok summary ∧
      newManagedKeyringVerifierForAudience target minute "bench" (1900000000 * second) =
        .ok verifier ∧
      newManagedIssuerForAudience current minute "bench" (1900000000 * second) = .ok issuer ∧
      issuer.issueRequest (1900000000 * second) random request = .ok (token, claims) ∧
      current.activeKeyID = old ∧ summary.cutoverUnix = 1900001000 := by
  obtain ⟨rotation, hrotation, hview⟩ := Option.map_eq_some_iff.mp h
  rw [toOption_eq_some, exampleRotation] at hrotation
  simp only [bind_eq_ok] at hrotation
  obtain ⟨current, hcurrent, target, htarget, summary, hsummary, verifier, hverifier, issuer, hissuer,
    issued, hissued, hresult⟩ := hrotation
  obtain rfl := Except.ok.inj hresult
  exact ⟨current, target, summary, verifier, issuer, _, _, issued.1, issued.2, ⟨_, _, _, hcurrent⟩,
    ⟨_, _, _, htarget⟩, hsummary, hverifier, hissuer, hissued, Prod.mk.inj hview⟩

/-- A rotation from the key `q3` to the key `q4`: the verifiers accept the tokens of the former. -/
theorem managed_transition_keeps_tokens_rotation :
    ∃ current target summary verifier token claims, Built current ∧ Built target ∧
      validateManagedTokenTransition current target "rotate" minute (1900000000 * second) =
        .ok summary ∧
      newManagedKeyringVerifierForAudience target minute "bench" (1900000000 * second) = .ok verifier ∧
      IssuedUnder current minute "bench" (1900000000 * second) token claims ∧
      AcceptedThroughout verifier (1900000000 * second) token claims := by
  obtain ⟨current, target, summary, verifier, issuer, random, request, token, claims, hcurrent,
    htarget, hsummary, hverifier, hissuer, hrequest, hactive, hcutover⟩ :=
    exampleRotation_eq_ok "q3" "q4" (by decide +kernel)
  have hissued : IssuedUnder current minute "bench" (1900000000 * second) token claims :=
    ⟨_, issuer, random, request, hissuer, hrequest⟩
  refine ⟨current, target, summary, verifier, _, _, hcurrent, htarget, hsummary, hverifier, hissued, ?_⟩
  refine ((managed_transition_keeps_tokens hcurrent htarget hsummary (by decide) (le_refl minute)
    hverifier).1 _ _ _ hissued ?_).mpr ⟨?_, by decide⟩
  · rw [hcutover]
    decide
  · rw [hactive]
    decide +kernel

/-- A rotation away from the key `q.3`: its tokens are issued, and no verifier ever accepts them. -/
theorem dotted_key_tokens_rejected :
    ∃ current target summary verifier token claims, Built current ∧ Built target ∧
      validateManagedTokenTransition current target "rotate" minute (1900000000 * second) =
        .ok summary ∧
      newManagedKeyringVerifierForAudience target minute "bench" (1900000000 * second) = .ok verifier ∧
      IssuedUnder current minute "bench" (1900000000 * second) token claims ∧
      1900000000 * second < summary.cutoverUnix * second ∧
      (∀ now, verifier.verify now token = .error errMalformed) ∧
      ¬ AcceptedThroughout verifier (1900000000 * second) token claims := by
  obtain ⟨current, target, summary, verifier, issuer, random, request, token, claims, hcurrent,
    htarget, hsummary, hverifier, hissuer, hrequest, hactive, hcutover⟩ :=
    exampleRotation_eq_ok "q.3" "q.4" (by decide +kernel)
  obtain ⟨key, hkey, -, hkeyID, -, hmanaged, -⟩ := newManagedIssuerForAudience_eq_ok hissuer
  have hissued := issued_issueRequest hrequest
  have hdot : '.' ∈ issuer.keyID.toList := by
    rw [hkeyID, (hcurrent.sound.keys _ _ hkey).id_eq, hactive]
    decide +kernel
  have hrejected := Verifier.verify_of_dot_mem hmanaged hdot hissued.token_eq
  refine ⟨current, target, summary, verifier, _, _, hcurrent, htarget, hsummary, hverifier,
    ⟨_, issuer, random, request, hissuer, hrequest⟩, ?_, hrejected verifier, fun haccepted => ?_⟩
  · rw [hcutover]
    decide
  · have hlife : 60 ≤ claims.expires - claims.issuedAt := hissued.lifetime
    have hiat : claims.issuedAt = 1900000000 := hissued.issuedAt
    cases (hrejected verifier _).symm.trans
      (haccepted (1900000000 * second) (le_refl _) (by simp only [second]; omega))

end XiaozhiPlatform.Token
