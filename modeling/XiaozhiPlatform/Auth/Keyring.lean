import XiaozhiPlatform.Auth.Claims
import XiaozhiPlatform.GoLib.Map

/-!
# Managed keyrings

A managed keyring holds the active key, which tokens are issued under, and the retiring keys, whose
tokens are still accepted. It is built from a document that names each key with its material and the
instants until which tokens are issued and verified under it.

- `Keyring.Sound`: what holds of every keyring that `buildManagedTokenKeyring` returns.
-/

namespace XiaozhiPlatform.Token

open GoLib Auth

/-! ## Model -/

def managedTokenKeyringSchema : String := "xz-hmac-token-keyring-v1"

def maximumManagedTokenKeyLength : ℕ := 128

def maximumManagedTokenKeys : ℕ := 3

structure DocumentEntry where
  keyID : String
  hmacKeyB64URL : String
  state : String
  issueBeforeUnix : ℤ
  verifyUntilUnix : ℤ
deriving DecidableEq, Repr

structure Document where
  schema : String
  revision : UInt64
  activeKeyID : String
  legacyUnkeyedKeyID : String
  legacyUnkeyedVerifyUntilUnix : ℤ
  keys : List DocumentEntry
deriving DecidableEq, Repr

inductive KeyState where
  | active
  | retiring
deriving DecidableEq, Repr

def KeyState.ofText (text : String) : Option KeyState :=
  if text = "active" then some .active else if text = "retiring" then some .retiring else none

structure Key where
  id : String
  secret : List UInt8
  state : KeyState
  issueBefore : Time
  verifyUntil : Time
deriving DecidableEq, Repr

/-- `ManagedTokenKeyring`. -/
structure Keyring where
  revision : UInt64
  activeKeyID : String
  legacyUnkeyedKeyID : String
  legacyVerifyUntil : Time
  keys : Std.ExtTreeMap String Key

/-- `validManagedTime`: from the first second of 2020 to the last one of 2099. -/
def ValidManagedTime (value : ℤ) : Prop := 1577836800 ≤ value ∧ value < 4102444800
deriving Decidable

/-- The material of a key: canonical base64 of 32 to 128 bytes. -/
def decodeSecret (text : String) : Except Error (List UInt8) :=
  match Base64.decode text.toList with
  | none => .error (.text "managed token key material is invalid")
  | some secret => do
    failIf (secret.length < 32 ∨ maximumManagedTokenKeyLength < secret.length ∨
      Base64.encodeToString secret ≠ text) (.text "managed token key material is invalid")
    return secret

/-- The `switch` on the state of an entry. -/
def buildKey (activeKeyID : String) (now : Time) (entry : DocumentEntry) (secret : List UInt8) :
    Except Error Key :=
  let verifyUntil := entry.verifyUntilUnix * second
  match KeyState.ofText entry.state with
  | some .active => do
    failIf (entry.keyID ≠ activeKeyID ∨ entry.issueBeforeUnix ≠ 0 ∨ ¬ now < verifyUntil)
      (.text "managed active token key is invalid")
    return ⟨entry.keyID, secret, .active, zeroTime, verifyUntil⟩
  | some .retiring => do
    failIf (entry.keyID = activeKeyID ∨ ¬ ValidManagedTime entry.issueBeforeUnix ∨
      entry.verifyUntilUnix ≤ entry.issueBeforeUnix ∨ ¬ now < verifyUntil)
      (.text "managed retiring token key is invalid")
    return ⟨entry.keyID, secret, .retiring, entry.issueBeforeUnix * second, verifyUntil⟩
  | none => .error (.text "managed token key state is invalid")

/-- The variables of the loop over the entries. -/
structure Building where
  keys : Std.ExtTreeMap String Key
  seenMaterial : List (List UInt8)
  previousID : String
  activeCount : ℕ

def buildEntry (activeKeyID : String) (now : Time) (building : Building) (entry : DocumentEntry) :
    Except Error Building := do
  failIf (¬ ValidIdentifier entry.keyID 64 ∨
    (building.previousID ≠ "" ∧ entry.keyID ≤ building.previousID) ∨
    ¬ ValidManagedTime entry.verifyUntilUnix) (.text "managed token key entry is invalid")
  let secret ← decodeSecret entry.hmacKeyB64URL
  failIf (secret ∈ building.seenMaterial) (.text "managed token key material must be distinct")
  let key ← buildKey activeKeyID now entry secret
  return ⟨building.keys.insert entry.keyID key, building.seenMaterial ++ [secret], entry.keyID,
    if key.state = .active then building.activeCount + 1 else building.activeCount⟩

/-- The key that tokens without a key identifier are verified with. -/
def LegacyUsable (keys : Std.ExtTreeMap String Key) (id : String) (deadline now : Time) : Prop :=
  ∃ key ∈ keys[id]?, key.state = .retiring ∧ deadline ≤ key.verifyUntil ∧ now < deadline
deriving Decidable

def buildManagedTokenKeyring (document : Document) (minimumRevision : UInt64) (now : Time) :
    Except Error Keyring := do
  failIf (document.schema ≠ managedTokenKeyringSchema ∨ document.revision < minimumRevision ∨
    document.revision = 0 ∨ ¬ ValidIdentifier document.activeKeyID 64 ∨ document.keys.length < 1 ∨
    maximumManagedTokenKeys < document.keys.length) (.text "managed token keyring identity is invalid")
  let legacyConfigured := document.legacyUnkeyedKeyID ≠ "" ∨ document.legacyUnkeyedVerifyUntilUnix ≠ 0
  failIf (legacyConfigured ∧ (¬ ValidIdentifier document.legacyUnkeyedKeyID 64 ∨
    ¬ ValidManagedTime document.legacyUnkeyedVerifyUntilUnix))
    (.text "managed token legacy transition is invalid")
  let legacyVerifyUntil :=
    if legacyConfigured then document.legacyUnkeyedVerifyUntilUnix * second else zeroTime
  let building ← document.keys.foldlM (buildEntry document.activeKeyID now) ⟨∅, [], "", 0⟩
  failIf (building.activeCount ≠ 1) (.text "managed token keyring must contain one active key")
  failIf (legacyConfigured ∧
    ¬ LegacyUsable building.keys document.legacyUnkeyedKeyID legacyVerifyUntil now)
    (.text "managed token legacy transition is invalid")
  return ⟨document.revision, document.activeKeyID, document.legacyUnkeyedKeyID, legacyVerifyUntil,
    building.keys⟩

/-! ## Keyrings that were built -/

/-- What the builder checks of a key. -/
structure Key.Sound (activeKeyID id : String) (key : Key) : Prop where
  id_eq : key.id = id
  identifier : ValidIdentifier id 64
  verifyUntil : ∃ seconds, ValidManagedTime seconds ∧ key.verifyUntil = seconds * second
  active : key.state = .active → id = activeKeyID ∧ key.issueBefore = zeroTime
  retiring : key.state = .retiring → id ≠ activeKeyID ∧
    ∃ seconds, ValidManagedTime seconds ∧ key.issueBefore = seconds * second

structure Keyring.Sound (keyring : Keyring) : Prop where
  identifier : ValidIdentifier keyring.activeKeyID 64
  keys : ∀ (id : String) (key : Key), keyring.keys[id]? = some key → key.Sound keyring.activeKeyID id
  legacy : keyring.legacyUnkeyedKeyID ≠ "" →
    ∃ key, keyring.keys[keyring.legacyUnkeyedKeyID]? = some key ∧ key.state = .retiring

variable {activeKeyID : String} {now : Time}

theorem sound_buildKey (hid : ValidIdentifier entry.keyID 64)
    (huntil : ValidManagedTime entry.verifyUntilUnix)
    (h : buildKey activeKeyID now entry secret = .ok key) : key.Sound activeKeyID entry.keyID := by
  unfold buildKey at h
  split at h
  next =>
    simp only [failIf_bind_eq_ok, not_or, not_not, pure, Except.pure, Except.ok.injEq] at h
    obtain ⟨⟨hactive, -, -⟩, rfl⟩ := h
    exact ⟨rfl, hid, ⟨_, huntil, rfl⟩, fun _ => ⟨hactive, rfl⟩, nofun⟩
  next =>
    simp only [failIf_bind_eq_ok, not_or, not_not, pure, Except.pure, Except.ok.injEq] at h
    obtain ⟨⟨hother, hbefore, -, -⟩, rfl⟩ := h
    exact ⟨rfl, hid, ⟨_, huntil, rfl⟩, nofun, fun _ => ⟨hother, _, hbefore, rfl⟩⟩
  next => cases h

theorem sound_buildEntry (hbefore : ∀ (id : String) (key :
    Key), building.keys[id]? = some key → key.Sound
    activeKeyID id) (h : buildEntry activeKeyID now building entry = .ok next) : ∀ (id : String)
    (key : Key), next.keys[id]? = some key → key.Sound activeKeyID id := by
  simp only [buildEntry, bind_eq_ok, failIf_eq_ok, exists_and_left, exists_const, not_or,
    not_not] at h
  obtain ⟨⟨hid, -, huntil⟩, secret, -, -, key, hkey, hnext⟩ := h
  obtain rfl := Except.ok.inj hnext
  intro id found hfound
  rw [Map.getElem?_insert] at hfound
  split at hfound
  next heq => grind [Option.some.inj, sound_buildKey]
  next => exact hbefore id found hfound

theorem sound_foldlM_buildEntry {entries : List DocumentEntry}
    {building last : Building} (hbefore : ∀ (id : String) (key : Key), building.keys[id]? = some key
    → key.Sound activeKeyID id) (h : entries.foldlM (buildEntry activeKeyID now) building = .ok
    last) : ∀ (id : String) (key : Key), last.keys[id]? = some key → key.Sound activeKeyID id := by
  induction entries generalizing building with
  | nil => exact Except.ok.inj h ▸ hbefore
  | cons entry entries ih => grind [bind_eq_ok, sound_buildEntry]

theorem sound_buildManagedTokenKeyring {document : Document} {minimumRevision : UInt64}
    {keyring : Keyring} (h : buildManagedTokenKeyring document minimumRevision now = .ok keyring) :
    keyring.Sound := by
  simp only [buildManagedTokenKeyring, bind_eq_ok, failIf_eq_ok, exists_and_left, exists_const,
    not_or, not_not] at h
  obtain ⟨⟨-, -, -, hactive, -, -⟩, -, building, hbuilding, -, hlegacy, hkeyring⟩ := h
  obtain rfl := Except.ok.inj hkeyring
  refine ⟨hactive, sound_foldlM_buildEntry (by simp) hbuilding, fun hconfigured => ?_⟩
  have husable := not_not.mp fun hnot => hlegacy ⟨.inl hconfigured, hnot⟩
  obtain ⟨key, hkey, hretiring, -, -⟩ := husable
  exact ⟨key, hkey, hretiring⟩

end XiaozhiPlatform.Token
