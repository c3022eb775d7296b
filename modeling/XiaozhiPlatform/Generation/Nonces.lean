import XiaozhiPlatform.Generation.Api
import XiaozhiPlatform.GoLib.Retention
import XiaozhiPlatform.GoLib.Strconv

/-!
# Authorisation of the generation API

`Server.authorize` checks the headers of a request, its timestamp and its signature, and reserves the
nonce of the principal. A run is a list of requests in the order in which they reserve their nonces.

A nonce is kept for twice the clock skew, which covers the window of a timestamp up to its last
instant, but not that instant. The difference of two instants saturates, and the absolute value of
the smallest duration is negative: a timestamp that is further ahead than the longest duration is
accepted, and never expires.

- `nonce_authorised_once`: no nonce of a principal is authorised twice while a nonce that comes again
  does so before it expires, or with a timestamp that the server refuses.
- `authorised_within_skew_iff`: when an accepted timestamp is within the clock skew.
-/

namespace XiaozhiPlatform.Generation

open GoLib Auth

/-! ## Requests -/

/-- `canonicalAPIRequest`. -/
def canonicalAPIRequest (principal method path timestamp nonce bodySHA256 : String) : String :=
  "xiaozhi-generation-api-v1\n" ++
    "principal=" ++ principal ++ "\n" ++
    "method=" ++ method ++ "\n" ++
    "path=" ++ path ++ "\n" ++
    "timestamp=" ++ timestamp ++ "\n" ++
    "nonce=" ++ nonce ++ "\n" ++
    "body_sha256=" ++ bodySHA256 ++ "\n"

/-- `absDuration`. The negation of the smallest duration overflows to itself. -/
def absDuration (value : ℤ) : ℤ := if value < 0 then (-value).bmod (2 ^ 64) else value

/-- The difference is within the skew, or the instant is ahead by more than a duration can say, where
the absolute value is negative. -/
theorem absDuration_timeSub_le_iff {now instant skew : ℤ} (hskew : 0 ≤ skew)
    (hmax : skew < 2 ^ 63 - 1) : absDuration (timeSub now instant) ≤ skew ↔
      (-skew ≤ now - instant ∧ now - instant ≤ skew) ∨ 2 ^ 63 ≤ instant - now := by
  have hsub : timeSub now instant = max (-2 ^ 63) (min (now - instant) (2 ^ 63 - 1)) := rfl
  rw [absDuration, hsub]
  split
  · by_cases hahead : 2 ^ 63 ≤ instant - now
    · rw [max_eq_left (by omega)]
      exact ⟨fun _ => .inr hahead, fun _ => by norm_num [Int.bmod]; omega⟩
    · rw [Int.bmod_eq_of_le (by omega) (by omega)]
      omega
  · omega

/-- A count of seconds that overflows names an instant far in the past. -/
theorem ofUnix_eq {sec : ℤ} (hlower : -2 ^ 63 ≤ sec) (hupper : sec < 2 ^ 63) :
    ofUnix sec = sec * 1000000000 ∨ ofUnix sec = (sec - 2 ^ 64) * 1000000000 := by
  have hsec : (sec + 62135596800).bmod (2 ^ 64) = sec + 62135596800 ∨
      (sec + 62135596800).bmod (2 ^ 64) = sec - 2 ^ 64 + 62135596800 := by
    rw [Int.bmod]
    omega
  rcases hsec with hsec | hsec
  · exact .inl (by rw [ofUnix, hsec, add_sub_cancel_right]; rfl)
  · exact .inr (by rw [ofUnix, hsec, add_sub_cancel_right]; rfl)

/-- A request with its payload, the reading of the clock and the clock when the nonce is reserved. -/
structure ApiRequest where
  method : String
  path : String
  rawQuery : String
  contentLength : ℤ
  transferEncoding : List String
  /-- `Header.Values`. -/
  values : String → List String
  payload : List UInt8
  now : Time
  turn : Time

/-- The headers that authorise a request. -/
structure Credentials where
  principal : String
  timestamp : String
  nonce : String
  signature : String
deriving DecidableEq, Repr

/-- `singleAPIHeader`. -/
def singleAPIHeader (request : ApiRequest) (name : String) : Option String :=
  match request.values name with
  | [value] => if value = "" then none else some value
  | _ => none

/-- The headers of a request. -/
def credentials (request : ApiRequest) : Option Credentials := do
  let principal ← singleAPIHeader request "X-Xiaozhi-Generation-Principal"
  let timestamp ← singleAPIHeader request "X-Xiaozhi-Generation-Timestamp"
  let nonce ← singleAPIHeader request "X-Xiaozhi-Generation-Nonce"
  let signature ← singleAPIHeader request "X-Xiaozhi-Generation-Signature"
  return { principal, timestamp, nonce, signature }

/-! ## The server -/

/-- The principals and the clock skew of a server, as `NewServer` accepts them. -/
structure Server where
  publisher : Principal
  replicas : Std.ExtTreeMap String Principal
  maxClockSkew : ℤ
  maxClockSkew_valid : 5 * second ≤ maxClockSkew ∧ maxClockSkew ≤ 5 * minute

/-- The nonces that each principal has used, with their expiry. -/
abbrev UsedNonces := Std.ExtTreeMap String (Std.ExtTreeMap String Time)

variable {request : ApiRequest} {caller : Principal}

namespace Server

variable (server : Server)

/-- `Server.principal`. -/
def principal (id : String) : Option Principal :=
  if id = server.publisher.id then some server.publisher else server.replicas[id]?

/-- The timestamp of a request is accepted at an instant. -/
def Current (now : Time) (timestamp : ℤ) : Prop :=
  absDuration (timeSub now (ofUnix timestamp)) ≤ server.maxClockSkew
deriving Decidable

/-- The timestamp is in its one decimal form and current. -/
def ValidTimestamp (now : Time) (text : String) : Prop :=
  ∃ timestamp ∈ parseInt64 text.toList,
    formatInt timestamp = text.toList ∧ server.Current now timestamp
deriving Decidable

/-- The signature is that of the principal. -/
def ValidSignature (principal : Principal) (request : ApiRequest) (headers : Credentials) : Prop :=
  Base64.decode headers.signature.toList = some (Sha256.hmac principal.key (utf8
    (canonicalAPIRequest principal.id request.method request.path headers.timestamp headers.nonce
      (String.ofList (Hex.encode (Sha256.sum256 request.payload).toList))).toList)).toList
deriving Decidable

/-- `authorize` up to the reservation: the principal and the nonce of a request. -/
def authenticate (request : ApiRequest) : Option (Principal × String) := do
  let headers ← credentials request
  guard (request.rawQuery = "" ∧ ¬ (request.method = "GET" ∧
    (request.contentLength ≠ 0 ∨ request.transferEncoding ≠ [])))
  let principal ← server.principal headers.principal
  guard (server.ValidTimestamp request.now headers.timestamp)
  guard (Base64.Canonical headers.nonce 16)
  guard (Base64.Canonical headers.signature 32)
  guard (ValidSignature principal request headers)
  return (principal, headers.nonce)

/-- `reserveNonce`. -/
def reserveNonce (principal nonce : String) (now : Time) (used : UsedNonces) : UsedNonces × Bool :=
  let values := prune now (used[principal]?.getD ∅)
  if nonce ∈ values ∨ 4096 ≤ values.size then (used.insert principal values, false)
  else (used.insert principal (values.insert nonce (now + 2 * server.maxClockSkew)), true)

/-- `authorize`. -/
def authorize (used : UsedNonces) (request : ApiRequest) :
    UsedNonces × Option (Principal × String) :=
  match server.authenticate request with
  | none => (used, none)
  | some (principal, nonce) =>
    let (used, reserved) := server.reserveNonce principal.id nonce request.now used
    (used, if reserved then some (principal, nonce) else none)

/-! ## Nonces that are kept -/

/-- The nonce of a principal is kept until this instant. -/
def kept (used : UsedNonces) (key : String × String) : Option Time := (used[key.1]?.getD ∅)[key.2]?

/-- The expiry of the nonce of a request. -/
def expires (x : Served UsedNonces ApiRequest) : Time := x.call.now + 2 * server.maxClockSkew

/-- A request of a principal with a nonce is authorised. -/
def Authorised (x : Served UsedNonces ApiRequest) (key : String × String) : Prop :=
  ∃ principal nonce, x.reply server.authorize = some (principal, nonce) ∧ (principal.id, nonce) = key

variable {server} {principal nonce : String} {now : Time} {used : UsedNonces}

theorem kept_reserveNonce (hkept : kept used key = some
    expiry) (hlive : now < expiry) : kept (server.reserveNonce principal nonce now used).1 key =
    some expiry := by
  obtain ⟨owner, text⟩ := key
  -- Only the nonces of the principal change, and those that have not expired stay.
  have howner : ∀ values, (owner = principal → values[text]? = some expiry) →
      kept (used.insert principal values) (owner, text) = some expiry := by
    intro values hvalues
    rw [kept, Map.getElem?_insert]
    split
    next heq => exact hvalues heq.symm
    next => exact hkept
  unfold reserveNonce
  dsimp only
  split
  · refine howner _ ?_
    rintro rfl
    exact getElem?_prune hkept hlive
  next hnew =>
    refine howner _ ?_
    rintro rfl
    exact getElem?_insert_prune (not_or.mp hnew).1 hkept hlive

theorem reserveNonce_eq_true (h : (server.reserveNonce principal nonce now used).2 = true) :
    (∀ expiry, kept used (principal, nonce) = some expiry → expiry ≤ now) ∧
      kept (server.reserveNonce principal nonce now used).1 (principal, nonce) =
        some (now + 2 * server.maxClockSkew) := by grind [reserveNonce, notMem_prune, kept]

variable (server used) in
theorem authorize_fst (request : ApiRequest) : (server.authorize used request).1 = used ∨ ∃
    principal nonce, (server.authorize used request).1 = (server.reserveNonce principal nonce
    request.now used).1 := by
  grind [authorize]

theorem authorize_eq_some (h : (server.authorize used request).2 = some (caller, nonce)) :
    server.authenticate request = some (caller, nonce) ∧
      (server.reserveNonce caller.id nonce request.now used).2 = true ∧
      (server.authorize used request).1 =
        (server.reserveNonce caller.id nonce request.now used).1 := by grind [authorize]

theorem retains :
    Retains server.authorize kept (fun x => x.call.now) server.expires server.Authorised where
  keep x key expiry hkept hlive := by
    obtain ⟨used, request⟩ := x
    rcases authorize_fst server used request with hsame | ⟨_, _, hreserve⟩
    · exact (congrArg (kept · key) hsame).trans hkept
    · exact (congrArg (kept · key) hreserve).trans (kept_reserveNonce hkept hlive)
  fresh x key expiry := by
    rintro ⟨caller, nonce, hreply, rfl⟩ hkept
    obtain ⟨-, hreserved, -⟩ := authorize_eq_some hreply
    exact (reserveNonce_eq_true hreserved).1 expiry hkept
  store x key := by
    rintro ⟨caller, nonce, hreply, rfl⟩
    obtain ⟨-, hreserved, hnext⟩ := authorize_eq_some hreply
    exact (congrArg (kept · (caller.id, nonce)) hnext).trans (reserveNonce_eq_true hreserved).2

/-! ## At most one authorisation -/

/-- The clock never goes back: every request reads it before it reserves its nonce, and the nonces
are reserved in the order of the clock. -/
structure NondecreasingClock (history : List (Served UsedNonces ApiRequest)) : Prop where
  ordered : ∀ x ∈ history, x.call.now ≤ x.call.turn
  turns : history.Pairwise fun y x => x.call.turn ≤ y.call.turn

variable (server) in
/-- When the later of two requests has the principal and the nonce of the earlier one, the server
refuses its timestamp, or its turn comes before the nonce expires. -/
def Retained (y x : Served UsedNonces ApiRequest) : Prop :=
  ∀ headers ∈ credentials y.call, ∀ earlier ∈ credentials x.call,
    headers.nonce = earlier.nonce →
    (server.principal headers.principal).map Principal.id =
      (server.principal earlier.principal).map Principal.id →
      ¬ server.ValidTimestamp y.call.now headers.timestamp ∨ y.call.turn < server.expires x

theorem authenticate_eq_some (h : server.authenticate request = some (caller, nonce)) :
    ∃ headers ∈ credentials request, server.principal headers.principal = some caller ∧
      headers.nonce = nonce ∧ server.ValidTimestamp request.now headers.timestamp := by
  simp only [authenticate, Option.bind_eq_bind, Option.bind_eq_some_iff, Option.guard_eq_some',
    exists_const] at h
  obtain ⟨headers, hheaders, -, found, hfound, htimestamp, -, -, -, h⟩ := h
  cases h
  exact ⟨headers, hheaders, hfound, rfl, htimestamp⟩

/-- An authorised timestamp is within the clock skew if and only if it is ahead of the clock by less
than the range of a duration. -/
theorem authorised_within_skew_iff {request : ApiRequest} {headers : Credentials}
    {caller : Principal} {timestamp : ℤ} (hheaders : credentials request = some headers)
    (hparsed : parseInt64 headers.timestamp.toList = some timestamp)
    (h : (server.authorize used request).2 = some (caller, nonce)) :
    |request.now - timestamp * second| ≤ server.maxClockSkew ↔
      timestamp * second - request.now < 2 ^ 63 := by
  obtain ⟨_, hsame, -, -, _, hmem, -, hcurrent⟩ := authenticate_eq_some (authorize_eq_some h).1
  obtain rfl := Option.some.inj (hheaders.symm.trans hsame)
  obtain rfl := Option.some.inj (hparsed.symm.trans hmem)
  obtain ⟨hlower, hupper⟩ := of_decide_eq_true (Option.filter_eq_some_iff.mp hparsed).2
  obtain ⟨hskew, hskew'⟩ := server.maxClockSkew_valid
  obtain ⟨now, hnow⟩ : ∃ now : ℤ, request.now = now := ⟨_, rfl⟩
  simp only [second, minute] at hskew hskew'
  have hcurrent := (absDuration_timeSub_le_iff (by omega) (by omega)).mp hcurrent
  rw [hnow] at hcurrent ⊢
  show |now - timestamp * 1000000000| ≤ server.maxClockSkew ↔
    timestamp * 1000000000 - now < 2 ^ 63
  rw [abs_le]
  rcases ofUnix_eq hlower hupper with hinstant | hinstant <;> rw [hinstant] at hcurrent <;> omega

variable {init state : UsedNonces} {history : List (Served UsedNonces ApiRequest)}

/-- No nonce of a principal is authorised twice in a run whose nonces are retained. -/
theorem nonce_authorised_once (hrun : Run server.authorize init history state)
    (hclock : NondecreasingClock history) (hretained : history.Pairwise server.Retained) :
    history.Pairwise fun y x => ∀ key, ¬ (server.Authorised y key ∧ server.Authorised x key) := by
  have hexpired := retains.expired hrun hclock.ordered hclock.turns
  refine (hretained.and hexpired).imp ?_
  rintro y x ⟨hkept, hexpired⟩ key ⟨hy, hx⟩
  have hlate := hexpired key hy hx
  obtain ⟨caller, nonce, hreply, rfl⟩ := hy
  obtain ⟨earlier, nonce', hreply', hkey⟩ := hx
  obtain ⟨hid, rfl⟩ := Prod.mk.inj hkey
  obtain ⟨headers, hheaders, hcaller, hnonce, htimestamp⟩ :=
    authenticate_eq_some (authorize_eq_some hreply).1
  obtain ⟨headers', hheaders', hcaller', hnonce', -⟩ :=
    authenticate_eq_some (authorize_eq_some hreply').1
  -- The timestamp was accepted, so the nonce of the earlier request must have been kept.
  rcases hkept headers hheaders headers' hheaders' (hnonce.trans hnonce'.symm)
    (by rw [hcaller, hcaller', Option.map_some, Option.map_some, hid]) with hrefused | hearly
  · exact hrefused htimestamp
  · exact absurd hlate (not_le.mpr hearly)

/-! ## A request that is authorised twice -/

/-- The headers of a request for the state that a principal signs. -/
def stateCredentials (principal : Principal) (timestamp nonce : String) : Credentials where
  principal := principal.id
  timestamp := timestamp
  nonce := nonce
  signature := Base64.encodeToString (Sha256.hmac principal.key (utf8 (canonicalAPIRequest principal.id
    "GET" "/v1/generations/state" timestamp nonce
    (String.ofList (Hex.encode (Sha256.sum256 []).toList))).toList)).toList

/-- A request for the state that a principal signs. -/
def stateRequest (principal : Principal) (timestamp nonce : String) (now : Time) : ApiRequest where
  method := "GET"
  path := "/v1/generations/state"
  rawQuery := ""
  contentLength := 0
  transferEncoding := []
  values name :=
    if name = "X-Xiaozhi-Generation-Principal" then [principal.id]
    else if name = "X-Xiaozhi-Generation-Timestamp" then [timestamp]
    else if name = "X-Xiaozhi-Generation-Nonce" then [nonce]
    else if name = "X-Xiaozhi-Generation-Signature" then
      [(stateCredentials principal timestamp nonce).signature]
    else []
  payload := []
  now := now
  turn := now

variable {caller : Principal} {timestamp : String}

theorem canonical_stateCredentials (caller : Principal) (timestamp nonce : String) :
    Base64.Canonical (stateCredentials caller timestamp nonce).signature 32 :=
  Base64.canonical_iff.mpr ⟨_, Vector.length_toList, rfl⟩

theorem credentials_stateRequest (hid : caller.id ≠ "") (htimestamp : timestamp ≠ "")
    (hnonce : nonce ≠ "") :
    credentials (stateRequest caller timestamp nonce now) =
      some (stateCredentials caller timestamp nonce) := by
  have hsignature : (stateCredentials caller timestamp nonce).signature ≠ "" := by
    intro h
    have hcanonical := canonical_stateCredentials caller timestamp nonce
    rw [h] at hcanonical
    exact absurd hcanonical (by decide +kernel)
  simp [credentials, singleAPIHeader, stateRequest, hid, htimestamp, hnonce, hsignature]
  rfl

theorem authenticate_stateRequest (hcaller : server.principal caller.id = some caller)
    (hid : caller.id ≠ "") (htext : timestamp ≠ "") (htimestamp : server.ValidTimestamp now timestamp)
    (hnonce : Base64.Canonical nonce 16) :
    server.authenticate (stateRequest caller timestamp nonce now) = some (caller, nonce) := by
  have hnonempty : nonce ≠ "" := by
    rintro rfl
    exact absurd hnonce (by decide +kernel)
  have hvalid : ValidSignature caller (stateRequest caller timestamp nonce now)
      (stateCredentials caller timestamp nonce) := by
    simp [ValidSignature, stateCredentials, stateRequest, Base64.encodeToString, Base64.decode_encode]
  have hcanonical := canonical_stateCredentials caller timestamp nonce
  rw [authenticate, credentials_stateRequest hid htext hnonempty]
  simp only [stateRequest, stateCredentials] at hcanonical hvalid ⊢
  simp [guard, hcaller, htimestamp, hnonce, hcanonical, hvalid]

end Server

namespace Example

def controlplane : Principal := ⟨"controlplane-a", .controlplane, List.replicate 32 7⟩

def publisher : Principal := ⟨"release-publisher", .publisher, List.replicate 32 9⟩

def server : Server where
  publisher := publisher
  replicas := (∅ : Std.ExtTreeMap String Principal).insert controlplane.id controlplane
  maxClockSkew := 5 * second
  maxClockSkew_valid := by decide

def nonce : String := "AAECAwQFBgcICQoLDA0ODw"

/-- The nonces after a request of the control plane at an instant. -/
def remembered (first : Time) : UsedNonces :=
  (server.reserveNonce controlplane.id nonce first ∅).1

/-- The control plane presents one request to a new process at two instants. -/
def twice (timestamp : String) (first again : Time) : List (Served UsedNonces ApiRequest) :=
  [⟨remembered first, Server.stateRequest controlplane timestamp nonce again⟩,
    ⟨∅, Server.stateRequest controlplane timestamp nonce first⟩]

theorem principal_controlplane : server.principal controlplane.id = some controlplane := by
  have hother : controlplane.id ≠ server.publisher.id := by decide
  rw [Server.principal, if_neg hother]
  exact Std.ExtTreeMap.getElem?_insert_self

variable {timestamp : String} {now first again : Time} {used : UsedNonces}

theorem authorize_stateRequest (htext : timestamp ≠ "")
    (htimestamp : server.ValidTimestamp now timestamp)
    (hreserve : (server.reserveNonce controlplane.id nonce now used).2 = true) :
    server.authorize used (Server.stateRequest controlplane timestamp nonce now) =
      ((server.reserveNonce controlplane.id nonce now used).1, some (controlplane, nonce)) := by
  rw [Server.authorize, Server.authenticate_stateRequest principal_controlplane (by decide) htext
    htimestamp (by decide +kernel)]
  exact Prod.ext rfl (if_pos hreserve)

theorem reserve_first (first : Time) : (server.reserveNonce controlplane.id nonce first ∅).2 = true
    := by
  simp [Server.reserveNonce]

theorem run_twice (timestamp : String) (first again : Time) (htext : timestamp ≠ "")
    (htimestamp : server.ValidTimestamp first timestamp) :
    Run server.authorize ∅ (twice timestamp first again)
      (server.authorize (remembered first)
        (Server.stateRequest controlplane timestamp nonce again)).1 := by
  have hrun : Run server.authorize ∅ [⟨∅, Server.stateRequest controlplane timestamp nonce first⟩]
      (server.authorize ∅ (Server.stateRequest controlplane timestamp nonce first)).1 := .step _ .nil
  rw [authorize_stateRequest htext htimestamp (reserve_first first)] at hrun
  exact .step _ hrun

theorem nondecreasingClock_twice (h : first ≤ again) :
    Server.NondecreasingClock (twice timestamp first again) where
  ordered := by simp [twice, Server.stateRequest]
  turns := by simpa [twice, Server.stateRequest] using h

/-- A request whose timestamp is current at both instants is authorised twice when the nonce has
expired at the second. -/
theorem authorised_twice (timestamp : String) (first again : Time) (htext : timestamp ≠ "")
    (hle : first ≤ again)
    (hfirst : server.ValidTimestamp first timestamp) (hagain : server.ValidTimestamp again timestamp)
    (hreserve : (server.reserveNonce controlplane.id nonce again (remembered first)).2 = true) :
    ∃ history state, Run server.authorize ∅ history state ∧ Server.NondecreasingClock history ∧
      (∀ x ∈ history, ∃ headers ∈ credentials x.call, headers.timestamp = timestamp) ∧
      ¬ history.Pairwise fun y x => ∀ key, ¬ (server.Authorised y key ∧ server.Authorised x key) := by
  refine ⟨twice timestamp first again, _, run_twice timestamp first again htext hfirst, nondecreasingClock_twice hle,
    fun x hx => ?_, fun hpairwise => ?_⟩
  · have hheaders (now : Time) : credentials (Server.stateRequest controlplane timestamp nonce now) =
        some (Server.stateCredentials controlplane timestamp nonce) :=
      Server.credentials_stateRequest (by decide) htext (by decide)
    simp only [twice, List.mem_cons, List.not_mem_nil, or_false] at hx
    rcases hx with rfl | rfl
    · exact ⟨_, hheaders again, rfl⟩
    · exact ⟨_, hheaders first, rfl⟩
  · refine (List.pairwise_cons.mp hpairwise).1 _ List.mem_cons_self (controlplane.id, nonce) ⟨?_, ?_⟩
    · exact ⟨controlplane, nonce, congrArg Prod.snd (authorize_stateRequest htext hagain hreserve), rfl⟩
    · exact ⟨controlplane, nonce,
        congrArg Prod.snd (authorize_stateRequest htext hfirst (reserve_first first)), rfl⟩

end Example

/-- A request is authorised at both ends of its window, and a request with a timestamp some centuries
ahead again and again. -/
theorem request_authorised_twice :
    (∃ history state, Run Example.server.authorize ∅ history state ∧
      Server.NondecreasingClock history ∧
      (∀ x ∈ history, ∃ headers ∈ credentials x.call, headers.timestamp = "1700000000") ∧
      ¬ history.Pairwise fun y x => ∀ key,
        ¬ (Example.server.Authorised y key ∧ Example.server.Authorised x key)) ∧
    ∃ history state, Run Example.server.authorize ∅ history state ∧
      Server.NondecreasingClock history ∧
      (∀ x ∈ history, ∃ headers ∈ credentials x.call, headers.timestamp = "20000000000") ∧
      ¬ history.Pairwise fun y x => ∀ key,
        ¬ (Example.server.Authorised y key ∧ Example.server.Authorised x key) := by
  constructor
  · exact Example.authorised_twice "1700000000" (1699999995 * second) (1700000005 * second)
      (by decide) (by decide) (by decide +kernel) (by decide +kernel) (by decide +kernel)
  · exact Example.authorised_twice "20000000000" (1700000000 * second) (1700000060 * second)
      (by decide) (by decide) (by decide +kernel) (by decide +kernel) (by decide +kernel)

/-- A request that is presented at the instant of its timestamp and again a second later is authorised
once. -/
theorem nonce_authorised_once_second : ∃ history state, Run Example.server.authorize ∅ history state
    ∧ history.length = 2 ∧ history.Pairwise fun y x => ∀ key, ¬ (Example.server.Authorised y key ∧
    Example.server.Authorised x key) := by
  have hrun := Example.run_twice "1700000000" (1700000000 * second) (1700000001 * second)
    (by decide) (by decide +kernel)
  refine ⟨_, _, hrun, rfl, Server.nonce_authorised_once hrun
    (Example.nondecreasingClock_twice (by decide)) ?_⟩
  exact List.pairwise_pair.mpr fun _ _ _ _ _ _ => .inr (by decide)

/-- A request that is signed for the instant of the clock. -/
theorem authorised_within_skew_now :
    |1700000000 * second - 1700000000 * second| ≤ Example.server.maxClockSkew ↔
      1700000000 * second - 1700000000 * second < 2 ^ 63 :=
  Server.authorised_within_skew_iff
    (Server.credentials_stateRequest (show Example.controlplane.id ≠ "" by decide) (by decide)
      (show Example.nonce ≠ "" by decide)) (show parseInt64 "1700000000".toList = _ by decide +kernel)
    (congrArg Prod.snd (Example.authorize_stateRequest (by decide) (by decide +kernel)
      (Example.reserve_first _)))

/-- A request that is signed for an instant some centuries ahead is authorised. -/
theorem distant_timestamp_authorised :
    (Example.server.authorize ∅ (Server.stateRequest Example.controlplane "20000000000"
      Example.nonce (1700000000 * second))).2 = some (Example.controlplane, Example.nonce) ∧
    ¬ |1700000000 * second - 20000000000 * second| ≤ Example.server.maxClockSkew :=
  ⟨congrArg Prod.snd (Example.authorize_stateRequest (by decide) (by decide +kernel)
    (Example.reserve_first _)), by decide⟩

end XiaozhiPlatform.Generation
