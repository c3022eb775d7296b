import XiaozhiPlatform.DeviceClaim.Agreement
import XiaozhiPlatform.DeviceClaim.OneTime

/-!
# The two device claim stores side by side

Both stores serve the same calls at the same times, with the same bytes for the identifiers that
they draw. They part in a few situations, which `Comparable` rules out. The reference store forgets
a claim when it expires, while the table holds it until it is pruned. It keeps the nonce of a
`Begin` that it refuses, and it bounds the number of nonces. And it confirms a device at the last
revision again for its owner, where the PostgreSQL store reports a conflict.

- `stores_agree`: in every run of comparable calls the replies and the owners are the same.
- `stores_differ`: the stores have different replies to a `Confirm` after the claim has expired.
-/

namespace XiaozhiPlatform.DeviceClaim

open GoLib Auth Sql

/-- A call of the comparison, without its time. -/
inductive Operation where
  | begin (userID tenantID deviceID code appNonce : String)
  | confirm (deviceID code : String)
  | release (userID tenantID deviceID : String)
  | owner (deviceID : String)
  | owners (deviceIDs : List String)
deriving DecidableEq, Repr

namespace Operation

def call (now : Time) : Operation → Call
  | begin userID tenantID deviceID code appNonce =>
    .begin userID tenantID deviceID code appNonce now
  | confirm deviceID code => .confirm deviceID code now
  | release userID tenantID deviceID => .release userID tenantID deviceID now
  | owner deviceID => .owner deviceID
  | owners deviceIDs => .owners deviceIDs

/-- The code that a call presents. -/
def code : Operation → Option String
  | begin _ _ _ code _ => some code
  | confirm _ code => some code
  | _ => none

/-- The nonce that a call uses. -/
def nonce : Operation → Option (String × String × String)
  | begin userID tenantID _ _ appNonce => some (tenantID, userID, appNonce)
  | _ => none

/-- The device that a call binds. -/
def confirmed : Operation → Option String
  | confirm deviceID _ => some deviceID
  | _ => none

end Operation

/-- One call on both stores at one time, with the bytes of the identifiers that it may draw. -/
structure Turn where
  operation : Operation
  clock : Time
  request : List UInt8
  binding : List UInt8
  event : List UInt8
  request_length : request.length = requestBytes
  binding_length : binding.length = bindingBytes
  event_length : event.length = requestBytes

namespace Turn

variable (turn : Turn)

/-- The bytes that the reference store draws. -/
def referenceRandom : List UInt8 :=
  match turn.operation with
  | .begin .. => turn.request
  | .confirm .. => turn.binding
  | _ => []

/-- The bytes that the PostgreSQL store draws: it also names the event of the log. -/
def postgresRandom : List UInt8 :=
  match turn.operation with
  | .begin .. => turn.request ++ []
  | .confirm .. => turn.event ++ (turn.binding ++ [])
  | .release .. => turn.event ++ []
  | _ => []

def reference : Call × List UInt8 := (turn.operation.call turn.clock, turn.referenceRandom)

def postgres (config : PostgresStore) : PostgresInput :=
  ⟨config, some (turn.operation.call turn.clock), turn.clock, turn.clock, turn.postgresRandom,
    .reported⟩

end Turn

/-- Both stores serve a call. -/
def serveBoth (config : PostgresStore) (stores : Store × Database) (turn : Turn) :
    (Store × Database) × Reply × Reply :=
  (((stores.1.serve turn.reference).1, (stores.2.serve (turn.postgres config)).1),
    (stores.1.serve turn.reference).2, (stores.2.serve (turn.postgres config)).2)

variable {config : PostgresStore}

/-- A `Begin` with a nonce that the reference store has kept although it refused the call. -/
def Refused (config : PostgresStore) (key : String × String × String)
    (x : Served (Store × Database) Turn) : Prop :=
  x.call.operation.nonce = some key ∧
    ((x.reply (serveBoth config)).1 = .record (.error errConflict) ∨
      (x.reply (serveBoth config)).1 = .record (.error errCapacity))

/-- The situations in which the two stores are compared. -/
structure Comparable (config : PostgresStore) (earlier : List (Served (Store × Database) Turn))
    (x : Served (Store × Database) Turn) : Prop where
  /-- The clock does not go back and has the resolution of the database. -/
  clock_whole : timestamptz x.call.clock = x.call.clock
  clock_le : ∀ y ∈ earlier, y.call.clock ≤ x.call.clock
  /-- The identifiers that are drawn are new. -/
  request_fresh : ∀ row ∈ x.before.2.claims.rows,
    row.requestID ≠ Base64.encodeToString x.call.request
  binding_fresh : ∀ row ∈ x.before.2.owners.rows,
    row.bindingID ≠ Base64.encodeToString x.call.binding
  event_fresh : ∀ event ∈ x.before.2.events.rows,
    event.eventID ≠ Base64.encodeToString x.call.event
  /-- The table does not hold an expired claim for the code. -/
  alive : ∀ code ∈ x.call.operation.code,
    ∀ row ∈ x.before.2.selectClaimByDigest (claimDigest code), x.call.clock < row.expiresAt
  /-- The nonce is not one of a `Begin` that was refused. -/
  nonce : ∀ key ∈ x.call.operation.nonce, ∀ y ∈ earlier, ¬ Refused config key y
  /-- The reference store has room for a nonce. -/
  room : ∀ key ∈ x.call.operation.nonce,
    (x.before.1.cleanup x.call.clock).appNonces.size < x.before.1.maxRecords * 4
  /-- A device with an owner is not confirmed at the last revision. -/
  revision : ∀ device ∈ x.call.operation.confirmed, ∀ owner ∈ x.before.2.selectOwner device,
    owner.active = true → owner.bindingRevision < maximumBindingRevision

/-! ## Runs -/

section Runs

variable {earlier history : List (Served (Store × Database) Turn)}
  {x : Served (Store × Database) Turn} {clock : Time}

/-- The nonces that the reference store keeps alone after some calls. -/
def Burned (config : PostgresStore) (earlier : List (Served (Store × Database) Turn))
    (key : String × String × String) : Prop := ∃ y ∈ earlier, Refused config key y

theorem agrees_step (httl : timestamptz config.ttl = config.ttl) (h : Agrees (Burned config earlier)
    x.call.clock config x.before.1 x.before.2) (hcomparable : Comparable config earlier x) :
    (x.reply (serveBoth config)).1 = (x.reply (serveBoth config)).2 ∧ Agrees (Burned config (x ::
    earlier)) x.call.clock config (x.after (serveBoth config)).1 (x.after (serveBoth config)).2
    := by
  obtain ⟨hwhole, -, hrequest, hbinding, hevent, halive, hnonce, hroom, hrevision⟩ := hcomparable
  have hmore : ∀ key, Burned config earlier key → Burned config (x :: earlier) key :=
    fun key ⟨y, hy, hrefused⟩ => ⟨y, List.mem_cons_of_mem x hy, hrefused⟩
  have hrefused : ∀ key, Refused config key x → Burned config (x :: earlier) key :=
    fun key hrefused => ⟨x, List.mem_cons_self, hrefused⟩
  obtain ⟨⟨store, db⟩, operation, clock, request, binding, event, hlength, hlength', hlength''⟩ := x
  cases operation with
  | begin userID tenantID deviceID code appNonce =>
    have hmatches : Matches _ clock config _
        (store.begin userID tenantID deviceID code appNonce clock request) _ :=
      begin_matches h hwhole httl hlength hrequest (halive code rfl)
        (fun ⟨y, hy, hkey⟩ => hnonce _ rfl y hy hkey) (hroom _ rfl)
    refine ⟨congrArg Reply.record hmatches.1, hmatches.2 _ hmore fun herror key hkey => ?_⟩
    refine hrefused key ⟨hkey, ?_⟩
    exact herror.imp (congrArg Reply.record) (congrArg Reply.record)
  | confirm deviceID code =>
    have hmatches := confirm_matches h hwhole hlength'' hlength' hevent hbinding
      (halive code rfl) (hrevision deviceID rfl)
    exact ⟨congrArg Reply.record hmatches.1, hmatches.2 _ hmore fun _ _ hkey => nomatch hkey⟩
  | release userID tenantID deviceID =>
    have hmatches : Matches _ clock config _ (store.release userID tenantID deviceID clock) _ :=
      release_matches h hlength'' hevent
    exact ⟨congrArg Reply.ownership hmatches.1, hmatches.2 _ hmore fun _ _ hkey => nomatch hkey⟩
  | owner deviceID => exact ⟨congrArg Reply.owner (h.owners.owner deviceID), h.mono hmore⟩
  | owners deviceIDs =>
    exact ⟨congrArg Reply.owners (h.owners.ownersOf deviceIDs), h.mono hmore⟩

theorem agrees_run (hinit : newStore config.ttl
    config.maxRecords = .ok init) (httl : timestamptz config.ttl = config.ttl) (hrun : Run
    (serveBoth config) (init, .empty) history stores) (hcomparable : ∀ later x earlier, history =
    later ++ x :: earlier → Comparable config earlier x) : (∀ x ∈ history, (x.reply (serveBoth
    config)).1 = (x.reply (serveBoth config)).2) ∧ ∀ clock, (∀ x ∈ history, x.call.clock ≤ clock) →
    Agrees (Burned config history) clock config stores.1 stores.2 := by
  induction hrun with
  | nil =>
    have hindexed := Store.indexed_newStore hinit
    simp only [newStore, failIf_bind_eq_ok] at hinit
    obtain rfl := Except.ok.inj hinit.2
    refine ⟨by simp, fun clock _ => ⟨rfl, rfl, ⟨hindexed, ?_, ?_, ?_⟩, ?_, ⟨?_, ?_, ?_⟩⟩⟩
    · exact fun _ => rfl
    · simp
    · simp
    · exact fun _ _ _ _ _ _ => rfl
    · exact fun _ => rfl
    · simp [Database.empty, Table.empty]
    · intro event hevent
      simp [Database.empty, Table.empty] at hevent
  | @step history stores turn hrun ih =>
    obtain ⟨hreplies, hagrees⟩ := ih fun later x earlier hsplit =>
      hcomparable (⟨stores, turn⟩ :: later) x earlier (by rw [hsplit, List.cons_append])
    have hlast : Comparable config history ⟨stores, turn⟩ := hcomparable [] _ history rfl
    have hstep := agrees_step httl (hagrees turn.clock hlast.clock_le) hlast
    refine ⟨List.forall_mem_cons.mpr ⟨hstep.1, hreplies⟩, fun clock hclock => ?_⟩
    exact hstep.2.later (hclock ⟨stores, turn⟩ List.mem_cons_self)

/-- In every run of comparable calls on a reference store and a PostgreSQL store that both start
empty, every call has the same reply on both, and every device has the same owner in the end. -/
theorem stores_agree {init : Store} {stores : Store × Database} (hinit : newStore config.ttl
    config.maxRecords = .ok init) (httl : timestamptz config.ttl = config.ttl) (hrun : Run
    (serveBoth config) (init, .empty) history stores) (hcomparable : ∀ later x earlier, history =
    later ++ x :: earlier → Comparable config earlier x) : (∀ x ∈ history, (x.reply (serveBoth
    config)).1 = (x.reply (serveBoth config)).2) ∧ ∀ device : String, stores.1.owners[device]? =
    stores.2.selectOwner device := by
  obtain ⟨hreplies, hagrees⟩ := agrees_run hinit httl hrun hcomparable
  refine ⟨hreplies, fun device => ?_⟩
  -- The clock of the last call is the latest one.
  cases history with
  | nil => exact (hagrees 0 (by simp)).owners.owners device
  | cons x earlier =>
    have hclock : ∀ y ∈ x :: earlier, y.call.clock ≤ x.call.clock :=
      List.forall_mem_cons.mpr ⟨le_rfl, (hcomparable [] x earlier rfl).clock_le⟩
    exact (hagrees _ hclock).owners.owners device

end Runs

/-! ## A claim that expires -/

open Store (exampleStore exampleCode exampleNonce)
open Database (examplePostgres)

/-- A call of the example, with one byte for each identifier that it may draw. -/
def exampleTurn (operation : Operation) (clock : Time) (request : UInt8) : Turn where
  operation := operation
  clock := clock
  request := List.replicate 16 request
  binding := List.replicate 16 0
  event := List.replicate 16 0
  request_length := List.length_replicate
  binding_length := List.length_replicate
  event_length := List.length_replicate

def exampleRegister : Turn :=
  exampleTurn (.begin "user-1" "tenant-1" "device-1" exampleCode exampleNonce) 0 0

/-- A `Confirm` of the example. -/
def exampleBind (clock : Time) : Turn := exampleTurn (.confirm "device-1" exampleCode) clock 1

/-- The stores after the registration of the example. -/
def exampleStores : Store × Database :=
  (serveBoth examplePostgres (exampleStore, .empty) exampleRegister).1

theorem comparable_example : ∀ later x earlier, [⟨exampleStores, exampleBind 0⟩, ⟨(exampleStore,
    .empty), exampleRegister⟩] = later ++ x :: earlier → Comparable examplePostgres earlier x := by
  intro later x earlier hsplit
  match later with
  | [] =>
    obtain ⟨rfl, rfl⟩ := List.cons.inj hsplit
    refine ⟨rfl, ?_, ?_, ?_, ?_, ?_, by rintro _ ⟨⟩, ?_, ?_⟩ <;> decide +kernel
  | [_] =>
    obtain ⟨-, htail⟩ := List.cons.inj hsplit
    obtain ⟨rfl, rfl⟩ := List.cons.inj htail
    refine ⟨rfl, ?_, ?_, ?_, ?_, ?_, by simp, ?_, ?_⟩ <;> decide +kernel
  | _ :: _ :: _ => simp at hsplit

/-- The stores agree when the example is confirmed in time. -/
theorem stores_agree_bound : (serveBoth examplePostgres exampleStores (exampleBind 0)).2.1 =
    (serveBoth examplePostgres exampleStores (exampleBind 0)).2.2 :=
  (stores_agree (show newStore minute 1 = .ok exampleStore from rfl) rfl
    (.step (exampleBind 0) (.step exampleRegister .nil)) comparable_example).1 _ List.mem_cons_self

/-- A `Confirm` when the claim has expired: the reference store has dropped the claim from its
index, while the PostgreSQL store finds it and tells that it has expired. -/
theorem stores_differ : (serveBoth examplePostgres exampleStores (exampleBind minute)).2 = (.record
    (.error errNotFound), .record (.error errExpired)) := by
  decide +kernel

end XiaozhiPlatform.DeviceClaim
