import XiaozhiPlatform.DeviceClaim.Owners
import XiaozhiPlatform.GoLib.Run

/-!
# Reconciliation of live connections with the ownership of their devices

A device can change its owner while it is connected, so `ReconcileOwnership` marks as revoked the
live connections that no longer match. It takes a snapshot of the connections under the lock, asks
the resolver for the owners of their devices without the lock, and takes the lock again for each
connection that does not match. Connections open, close and are replaced, and the ownership changes,
between any two of these steps.

- `reconcileOwnership_marks`: a pass marks the live connections that differ, and no other one, if and
  only if at most 1000 connections are live, or none of them is left to mark.
- `large_fleet_not_revoked`: with 1001 connections whose devices were all released, none is marked.
-/

namespace XiaozhiPlatform.VoiceServer

open GoLib Auth DeviceClaim

/-! ## Model -/

/-- The fields of a connection that the reconciliation reads and writes. -/
structure Connection where
  deviceID : String
  ownerID : String
  tenantID : String
  bindingID : String
  bindingRevision : UInt64
  ownershipRevoked : Bool
deriving DecidableEq, Repr

/-- The ownership that a connection was opened under. -/
def Connection.ownership (connection : Connection) : Ownership :=
  ⟨connection.ownerID, connection.tenantID, connection.bindingID, connection.bindingRevision⟩

/-- `OwnershipResolver` over states of the ownership. The batch method is there when the resolver
implements `BatchOwnershipResolver` too. -/
structure Resolver (σ : Type) where
  owner : σ → String → Except Error (Option Ownership)
  owners : Option (σ → List String → Except Error (Std.ExtTreeMap String Ownership))

def storeResolver : Resolver Store where
  owner := Store.owner
  owners := some Store.ownersOf

/-- The ownership tables with the binding identifiers that the stores write. -/
def BoundDatabase : Type :=
  { db : Database // ∀ row ∈ db.owners.rows, ValidBindingID row.bindingID }

/-- The PostgreSQL store when the database answers. -/
def postgresResolver : Resolver BoundDatabase where
  owner db deviceID := PostgresStore.owner db.1 deviceID .reported
  owners := some fun db deviceIDs => PostgresStore.owners db.1 .reported deviceIDs

/-- How far the call of `ReconcileOwnership` is. -/
inductive Pass where
  | idle
  /-- The connections are copied and the lock is released. -/
  | snapshot (active : List ℕ)
  /-- The resolver has answered: the connections left and those marked so far. -/
  | marking (resolved : Std.ExtTreeMap String Ownership) (remaining revoked : List ℕ)

/-- The server. A connection is known by its place in `allocated`, which stands for its pointer. -/
structure Server (σ : Type) where
  limit : ℕ
  ownership : σ
  allocated : List Connection
  connections : Std.ExtTreeMap String ℕ
  pass : Pass

def newServer {σ : Type} (limit : ℕ) (ownership : σ) : Server σ :=
  ⟨limit, ownership, [], ∅, .idle⟩

/-- What happens to the server. -/
inductive Call (σ : Type) where
  /-- A device connects. The handler has read the ownership in the state `checked`; `admitted` says
  that no other check of the handler refuses the connection. -/
  | device (checked : σ) (deviceID ownerID tenantID bindingID : String) (bindingRevision : UInt64)
      (admitted : Bool)
  /-- The handler of a connection returns. -/
  | removeConnection (connection : ℕ)
  /-- The ownership changes. -/
  | ownership (next : σ)
  /-- `ReconcileOwnership` starts: it copies the map in the order that the iteration has. -/
  | reconcile (order : List ℕ)
  | resolve
  /-- The next turn of the loop over the connections. -/
  | turn

namespace Server

variable {σ : Type} (server : Server σ)

/-- The device of a connection. -/
def deviceOf (pointer : ℕ) : Option String := server.allocated[pointer]?.map (·.deviceID)

/-- `registry.acquire` of a device, for a registry of the connections. -/
def acquire (deviceID : String) : Bool :=
  !(server.connections.contains deviceID ||
    (decide (0 < server.limit) && decide (server.limit ≤ server.connections.size)))

def addConnection (connection : Connection) : Server σ :=
  { server with
    allocated := server.allocated ++ [connection]
    connections := server.connections.insert connection.deviceID server.allocated.length }

/-- The handler of a device, up to the point where the connection is live. -/
def device (resolver : Resolver σ) (checked : σ)
    (deviceID ownerID tenantID bindingID : String) (bindingRevision : UInt64) (admitted : Bool) :
    Server σ :=
  match resolver.owner checked deviceID with
  | .ok (some ownership) =>
    if ownership.Matches ownerID tenantID bindingID bindingRevision ∧
        server.acquire deviceID = true ∧ admitted = true then
      server.addConnection ⟨deviceID, ownerID, tenantID, bindingID, bindingRevision, false⟩
    else server
  | _ => server

def removeConnection (pointer : ℕ) : Server σ :=
  match server.allocated[pointer]? with
  | none => server
  | some connection =>
    if server.connections[connection.deviceID]? = some pointer then
      { server with connections := server.connections.erase connection.deviceID }
    else server

/-- The values of the map. -/
def active : List ℕ := server.connections.toList.map Prod.snd

def reconcile (order : List ℕ) : Server σ :=
  match server.pass with
  | .idle => if order.Perm server.active then { server with pass := .snapshot order } else server
  | _ => server

/-- The loop goes on while connections are left, and the number of those marked is returned at its
end. -/
def loop (resolved : Std.ExtTreeMap String Ownership) (remaining revoked : List ℕ) :
    Server σ × Option ℕ :=
  if remaining = [] then ({ server with pass := .idle }, some revoked.length)
  else ({ server with pass := .marking resolved remaining revoked }, none)

def resolve (resolver : Resolver σ) : Server σ × Option ℕ :=
  match server.pass with
  | .snapshot active =>
    match resolver.owners with
    | none => server.loop ∅ active []
    | some owners =>
      match owners server.ownership (active.filterMap server.deviceOf) with
      | .error _ => ({ server with pass := .idle }, some 0)
      | .ok resolved => server.loop resolved active []
  | _ => (server, none)

/-- The ownership that the loop compares a connection with. -/
def lookup (resolver : Resolver σ) (resolved : Std.ExtTreeMap String Ownership)
    (deviceID : String) : Except Error (Option Ownership) :=
  if resolver.owners.isSome then .ok resolved[deviceID]? else resolver.owner server.ownership deviceID

/-- `owned && ownership.Matches(…)`. -/
def Owned (found : Option Ownership) (connection : Connection) : Prop :=
  ∃ ownership ∈ found, ownership.Matches connection.ownerID connection.tenantID connection.bindingID
    connection.bindingRevision
deriving Decidable

/-- The part of a turn under the lock: the connection is marked if it is still the one of its
device and not marked already. -/
def mark (resolved : Std.ExtTreeMap String Ownership) (remaining revoked : List ℕ) (pointer : ℕ)
    (connection : Connection) : Server σ × Option ℕ :=
  if server.connections[connection.deviceID]? = some pointer ∧
      connection.ownershipRevoked = false then
    { server with
      allocated := server.allocated.set pointer { connection with ownershipRevoked := true } }.loop
        resolved remaining (revoked ++ [pointer])
  else server.loop resolved remaining revoked

/-- A turn of the loop. The map of the resolver and the fields that are compared do not change, so
the lookup and the part under the lock are one step; for a resolver without the batch method the
query belongs to the step too. -/
def turn (resolver : Resolver σ) : Server σ × Option ℕ :=
  match server.pass with
  | .marking resolved (pointer :: remaining) revoked =>
    match server.allocated[pointer]? with
    | none => server.loop resolved remaining revoked
    | some connection =>
      match server.lookup resolver resolved connection.deviceID with
      | .error _ => server.loop resolved remaining revoked
      | .ok found =>
        if Owned found connection then server.loop resolved remaining revoked
        else server.mark resolved remaining revoked pointer connection
  | _ => (server, none)

/-- One step of the server; the reply is the number that `ReconcileOwnership` returns. -/
def serve (resolver : Resolver σ) (server : Server σ) : Call σ → Server σ × Option ℕ
  | .device checked deviceID ownerID tenantID bindingID bindingRevision admitted =>
    (server.device resolver checked deviceID ownerID tenantID bindingID bindingRevision admitted,
      none)
  | .removeConnection pointer => (server.removeConnection pointer, none)
  | .ownership next => ({ server with ownership := next }, none)
  | .reconcile order => (server.reconcile order, none)
  | .resolve => server.resolve resolver
  | .turn => server.turn resolver

/-! ## What a step does -/

/-- A connection is live while the map holds it under its device. -/
def Live (pointer : ℕ) : Prop :=
  ∃ deviceID, server.deviceOf pointer = some deviceID ∧ server.connections[deviceID]? = some pointer

def Revoked (pointer : ℕ) : Prop :=
  ∃ connection, server.allocated[pointer]? = some connection ∧ connection.ownershipRevoked = true

/-- What a step does to the connections. -/
inductive Effect : Server σ → Server σ → Prop
  | unchanged {a b : Server σ} (hallocated : b.allocated = a.allocated)
      (hconnections : b.connections = a.connections) : Effect a b
  | added {a : Server σ} (connection : Connection)
      (hdevice : ValidIdentifier connection.deviceID 64)
      (hbinding : ValidBindingID connection.bindingID)
      (hrevision : ValidBindingRevision connection.bindingRevision)
      (hrevoked : connection.ownershipRevoked = false) : Effect a (a.addConnection connection)
  | removed {a b : Server σ} (deviceID : String) (hallocated : b.allocated = a.allocated)
      (hconnections : b.connections = a.connections.erase deviceID) : Effect a b
  | marked {a b : Server σ} (pointer : ℕ) (connection : Connection)
      (hconnection : a.allocated[pointer]? = some connection)
      (hallocated : b.allocated = a.allocated.set pointer { connection with ownershipRevoked := true })
      (hconnections : b.connections = a.connections) : Effect a b

section

variable (resolved : Std.ExtTreeMap String Ownership) (remaining revoked : List ℕ)

include resolved remaining revoked

theorem loop_allocated :
    (server.loop resolved remaining revoked).1.allocated = server.allocated := by
  unfold loop
  split <;> rfl

theorem loop_connections :
    (server.loop resolved remaining revoked).1.connections = server.connections := by
  unfold loop
  split <;> rfl

theorem loop_effect : Effect server (server.loop resolved remaining revoked).1 :=
  .unchanged (server.loop_allocated ..) (server.loop_connections ..)

end

theorem device_effect (resolver : Resolver σ) (hvalid : ∀ s deviceID ownership, resolver.owner s
    deviceID = .ok (some ownership) → ValidIdentifier deviceID 64) (checked : σ) (deviceID ownerID
    tenantID bindingID : String) (bindingRevision : UInt64) (admitted : Bool) : Effect server
    (server.device resolver checked deviceID ownerID tenantID bindingID bindingRevision admitted)
    := by
  unfold device
  split
  next ownership hfound =>
    split
    next h =>
      obtain ⟨⟨-, -, -, -, hbinding, hrevision⟩, -, -⟩ := h
      exact .added _ (hvalid checked deviceID ownership hfound) hbinding hrevision rfl
    next => exact .unchanged rfl rfl
  next => exact .unchanged rfl rfl

theorem removeConnection_effect (pointer : ℕ) : Effect server (server.removeConnection pointer) := by
  unfold removeConnection
  split
  next => exact .unchanged rfl rfl
  next connection _ =>
    split
    next => exact .removed connection.deviceID rfl rfl
    next => exact .unchanged rfl rfl

theorem resolve_effect (resolver : Resolver σ) : Effect server (server.resolve resolver).1 := by
  unfold resolve
  split
  next =>
    split
    next => exact server.loop_effect ..
    next =>
      split
      next => exact .unchanged rfl rfl
      next => exact server.loop_effect ..
  next => exact .unchanged rfl rfl

theorem turn_effect (resolver : Resolver σ) : Effect server (server.turn resolver).1 := by
  unfold turn
  split
  next resolved pointer remaining revoked _ =>
    split
    next => exact server.loop_effect ..
    next connection hconnection =>
      split
      next => exact server.loop_effect ..
      next =>
        split
        next => exact server.loop_effect ..
        next =>
          unfold mark
          split
          next => exact .marked pointer connection hconnection (loop_allocated ..) (loop_connections ..)
          next => exact server.loop_effect ..
  next => exact .unchanged rfl rfl

theorem serve_effect (resolver : Resolver σ) (hvalid : ∀ s deviceID ownership, resolver.owner s
    deviceID = .ok (some ownership) → ValidIdentifier deviceID 64) (call : Call σ) : Effect server
    (serve resolver server call).1 := by
  cases call with
  | device => exact server.device_effect resolver hvalid ..
  | removeConnection pointer => exact server.removeConnection_effect pointer
  | ownership => exact .unchanged rfl rfl
  | reconcile order =>
    show Effect server (server.reconcile order)
    unfold reconcile
    split
    next => split <;> exact .unchanged rfl rfl
    next => exact .unchanged rfl rfl
  | resolve => exact server.resolve_effect resolver
  | turn => exact server.turn_effect resolver

/-! ## Invariant -/

/-- The connections carry identifiers that were checked, and the map holds each one under the device
that it is a connection of. -/
structure Sound : Prop where
  valid : ∀ (pointer : ℕ) (connection : Connection), server.allocated[pointer]? = some connection →
    ValidIdentifier connection.deviceID 64 ∧ ValidBindingID connection.bindingID ∧
      ValidBindingRevision connection.bindingRevision
  keyed : ∀ (deviceID : String) (pointer : ℕ), server.connections[deviceID]? = some pointer →
    server.deviceOf pointer = some deviceID

/-- What every step keeps: a connection stays allocated with its fields, a mark is never taken
back, and a connection that is not live any more does not come back. -/
structure Evolves (a b : Server σ) : Prop where
  kept : ∀ (pointer : ℕ) (connection : Connection), a.allocated[pointer]? = some connection →
    ∃ later : Connection, b.allocated[pointer]? = some later ∧ later.deviceID = connection.deviceID ∧
      later.ownership = connection.ownership ∧
      (connection.ownershipRevoked = true → later.ownershipRevoked = true)
  live : ∀ pointer, pointer < a.allocated.length → b.Live pointer → a.Live pointer

variable {server} {a b c : Server σ}

theorem Evolves.refl (a : Server σ) : Evolves a a :=
  ⟨fun _ connection h => ⟨connection, h, rfl, rfl, id⟩, fun _ _ h => h⟩

variable {pointer : ℕ}

theorem Evolves.deviceOf (h : Evolves a b) (hpointer : pointer < a.allocated.length) :
    b.deviceOf pointer = a.deviceOf pointer := by
  have hconnection := List.getElem?_eq_getElem hpointer
  obtain ⟨later, hlater, hdevice, -, -⟩ := h.kept pointer _ hconnection
  rw [Server.deviceOf, Server.deviceOf, hlater, hconnection, Option.map_some, Option.map_some, hdevice]

theorem Evolves.length_le (h : Evolves a b) : a.allocated.length ≤ b.allocated.length := by
  by_contra hlt
  obtain ⟨later, hlater, -⟩ :=
    h.kept b.allocated.length _ (List.getElem?_eq_getElem (by omega))
  simp at hlater

theorem Evolves.trans (hab : Evolves a b) (hbc : Evolves b c) : Evolves a c where
  kept pointer connection h := by
    obtain ⟨middle, hmiddle, hdevice, howner, hmark⟩ := hab.kept pointer connection h
    obtain ⟨later, hlater, hdevice', howner', hmark'⟩ := hbc.kept pointer middle hmiddle
    exact ⟨later, hlater, hdevice'.trans hdevice, howner'.trans howner, hmark' ∘ hmark⟩
  live pointer hpointer h :=
    hab.live pointer hpointer (hbc.live pointer (hpointer.trans_le hab.length_le) h)

variable {connection : Connection}

theorem deviceOf_set (hconnection : a.allocated[pointer]? = some connection)
    (hallocated : b.allocated = a.allocated.set pointer
    { connection with ownershipRevoked := true })
    (other : ℕ) : b.deviceOf other = a.deviceOf other := by grind [deviceOf]

theorem addConnection_getElem? (connection : Connection) (h : pointer < a.allocated.length) :
    (a.addConnection connection).allocated[pointer]? = a.allocated[pointer]? :=
  List.getElem?_append_left h

section

variable (hallocated : b.allocated = a.allocated)
  (hconnections : ∀ (deviceID : String) pointer, b.connections[deviceID]? = some pointer →
    a.connections[deviceID]? = some pointer)

include hallocated hconnections

theorem evolves_of_subset : Evolves a b := by
  refine ⟨fun pointer connection h => ⟨connection, hallocated ▸ h, rfl, rfl, id⟩, ?_⟩
  rintro pointer _ ⟨device, hdevice, hheld⟩
  rw [deviceOf, hallocated] at hdevice
  exact ⟨device, hdevice, hconnections device pointer hheld⟩

theorem Sound.of_subset (ha : Sound a) : Sound b := by
  refine ⟨by rw [hallocated]; exact ha.valid, fun deviceID pointer hheld => ?_⟩
  rw [deviceOf, hallocated]
  exact ha.keyed deviceID pointer (hconnections deviceID pointer hheld)

end

theorem Effect.evolves (h : Effect a b) : Evolves a b := by
  cases h with
  | unchanged hallocated hconnections =>
    exact evolves_of_subset hallocated (by simp [hconnections])
  | added connection =>
    refine ⟨fun pointer other h => ⟨other, ?_, rfl, rfl, id⟩, ?_⟩
    · rw [addConnection_getElem? connection (List.getElem?_eq_some_iff.mp h).1, h]
    · -- The map gets the new pointer only, so an older one that it holds was there before.
      rintro pointer hlt ⟨deviceID, hdevice, hheld⟩
      refine ⟨deviceID, ?_, ?_⟩
      · rwa [deviceOf, addConnection_getElem? connection hlt] at hdevice
      · grind [addConnection]
  | removed deviceID hallocated hconnections =>
    exact evolves_of_subset hallocated (by simp [hconnections, Map.getElem?_erase])
  | marked pointer connection hconnection hallocated hconnections =>
    have hlt : pointer < a.allocated.length := (List.getElem?_eq_some_iff.mp hconnection).1
    constructor
    · intro other found hfound
      rw [hallocated, List.getElem?_set]
      by_cases heq : pointer = other
      · subst heq
        obtain rfl : connection = found := Option.some.inj (hconnection.symm.trans hfound)
        rw [if_pos rfl, if_pos hlt]
        exact ⟨{ connection with ownershipRevoked := true }, rfl, rfl, rfl, fun _ => rfl⟩
      · grind
    · rintro other - ⟨deviceID, hdevice, hheld⟩
      exact ⟨deviceID, deviceOf_set hconnection hallocated other ▸ hdevice, hconnections ▸ hheld⟩

theorem Effect.sound (h : Effect a b) (ha : Sound a) : Sound b := by
  cases h with
  | unchanged hallocated hconnections =>
    exact ha.of_subset hallocated (by simp [hconnections])
  | added connection hdevice hbinding hrevision =>
    constructor
    · intro pointer other hother
      rw [addConnection, List.getElem?_append] at hother
      split at hother
      next => exact ha.valid pointer other hother
      next => grind
    · intro deviceID pointer hheld
      rw [addConnection, Map.getElem?_insert] at hheld
      split at hheld
      next heq => grind [deviceOf, addConnection]
      next =>
        have hdeviceOf := ha.keyed deviceID pointer hheld
        obtain ⟨found, hfound, -⟩ := Option.map_eq_some_iff.mp hdeviceOf
        rwa [deviceOf, addConnection_getElem? connection (List.getElem?_eq_some_iff.mp hfound).1]
  | removed deviceID hallocated hconnections =>
    exact ha.of_subset hallocated (by simp [hconnections, Map.getElem?_erase])
  | marked pointer connection hconnection hallocated hconnections =>
    constructor
    · intro other found hfound
      rw [hallocated] at hfound
      rcases List.mem_or_eq_of_mem_set (List.mem_of_getElem? hfound) with hmem | rfl
      · obtain ⟨place, hplace⟩ := List.getElem?_of_mem hmem
        exact ha.valid place found hplace
      · exact ha.valid pointer connection hconnection
    · intro deviceID other hheld
      rw [deviceOf_set hconnection hallocated]
      exact ha.keyed deviceID other (hconnections ▸ hheld)

theorem revoked_congr (h : b.allocated = a.allocated) (pointer : ℕ) :
    b.Revoked pointer ↔ a.Revoked pointer := by
  rw [Revoked, h, Revoked]

theorem revoked_addConnection (h : connection.ownershipRevoked = false)
    (pointer : ℕ) : (a.addConnection connection).Revoked pointer ↔ a.Revoked pointer := by
  grind [Revoked, addConnection]

theorem revoked_set (hconnection : a.allocated[pointer]? = some connection)
    (hallocated : b.allocated = a.allocated.set pointer
    { connection with ownershipRevoked := true })
    (other : ℕ) : b.Revoked other ↔ other = pointer ∨ a.Revoked other := by grind [Revoked]

/-- The call is not a turn that the loop is waiting for. -/
def NotTurn (server : Server σ) (call : Call σ) : Prop :=
  ∀ resolved pointer remaining revoked,
    server.pass = .marking resolved (pointer :: remaining) revoked → call ≠ .turn

theorem revoked_serve (resolver : Resolver σ) (hturn : server.NotTurn call) (pointer : ℕ) :
    (serve resolver server call).1.Revoked pointer ↔ server.Revoked pointer := by
  cases call with
  | device checked deviceID => grind [serve, device, revoked_addConnection]
  | removeConnection => grind [serve, removeConnection, revoked_congr]
  | ownership => exact revoked_congr rfl pointer
  | reconcile => grind [serve, reconcile, revoked_congr]
  | resolve =>
    simp only [serve, resolve]
    split
    next => grind [revoked_congr, loop_allocated]
    next => rfl
  | turn => grind [serve, turn, NotTurn]

theorem pass_serve (resolver : Resolver σ)
    (hreconcile : server.pass = .idle → ∀ order, call ≠ .reconcile order)
    (hresolve : ∀ active, server.pass = .snapshot active → call ≠ .resolve)
    (hturn : server.NotTurn call) : (serve resolver server call).1.pass = server.pass := by
  cases call with
  | device =>
    simp only [serve, device]
    split
    next => split <;> rfl
    next => rfl
  | removeConnection => grind [serve, removeConnection]
  | ownership => rfl
  | reconcile order =>
    simp only [serve, reconcile]
    split
    next hidle => exact absurd rfl (hreconcile hidle order)
    next => rfl
  | resolve => grind [serve, resolve, active]
  | turn => grind [serve, turn, NotTurn]

/-! ## The snapshot -/

theorem mem_active (h : Sound server) : pointer ∈ server.active ↔ server.Live pointer := by
  rw [active, List.mem_map, Live]
  constructor
  · rintro ⟨⟨deviceID, held⟩, hmem, rfl⟩
    have hheld := Std.ExtTreeMap.mem_toList_iff_getElem?_eq_some.mp hmem
    exact ⟨deviceID, h.keyed deviceID held hheld, hheld⟩
  · rintro ⟨deviceID, -, hheld⟩
    exact ⟨(deviceID, pointer), Std.ExtTreeMap.mem_toList_iff_getElem?_eq_some.mpr hheld, rfl⟩

theorem deviceOf_active (h : Sound server) :
    server.active.filterMap server.deviceOf = server.connections.toList.map Prod.fst := by
  rw [active, List.filterMap_map, ← List.filterMap_eq_map]
  refine List.filterMap_congr fun entry hentry => ?_
  exact h.keyed entry.1 entry.2 (Std.ExtTreeMap.mem_toList_iff_getElem?_eq_some.mp hentry)

theorem live_lt_length (h : server.Live pointer) : pointer < server.allocated.length := by
  obtain ⟨deviceID, hdevice, -⟩ := h
  obtain ⟨connection, hconnection, -⟩ := Option.map_eq_some_iff.mp hdevice
  exact (List.getElem?_eq_some_iff.mp hconnection).1

/-- The list of devices that the resolver is asked for: as many as there were live connections, all
valid and all different, whatever has happened since the snapshot. -/
theorem deviceIDs_requestable {start asked : Server σ} {order : List ℕ} (hstart : Sound start)
    (hasked : Sound asked) (horder : order.Perm start.active) (hlater : Evolves start asked) :
    (order.filterMap asked.deviceOf).length = start.connections.size ∧
      Requestable (order.filterMap asked.deviceOf) [] := by
  have hsame : order.filterMap asked.deviceOf = order.filterMap start.deviceOf :=
    List.filterMap_congr fun pointer hpointer =>
      hlater.deviceOf (live_lt_length ((mem_active hstart).mp (horder.mem_iff.mp hpointer)))
  have hperm : (order.filterMap start.deviceOf).Perm (start.connections.toList.map Prod.fst) :=
    deviceOf_active hstart ▸ horder.filterMap start.deviceOf
  refine ⟨?_, fun deviceID hdevice => ⟨?_, List.not_mem_nil⟩, ?_⟩
  · rw [hsame, hperm.length_eq, List.length_map, Std.ExtTreeMap.length_toList]
  · obtain ⟨pointer, -, hpointer⟩ := List.mem_filterMap.mp hdevice
    obtain ⟨connection, hconnection, rfl⟩ := Option.map_eq_some_iff.mp hpointer
    exact (hasked.valid pointer connection hconnection).1
  · grind [Std.ExtTreeMap.distinct_keys_toList.imp]

/-! ## The resolver -/

end Server

/-- What the reconciliation needs of a resolver: it answers for valid devices only, and its batch
method answers for at most 1000 devices with the ownership in force of each. -/
structure Resolver.Exact {σ : Type} (resolver : Resolver σ)
    (current : σ → String → Option Ownership) : Prop where
  valid : ∀ state deviceID ownership, resolver.owner state deviceID = .ok (some ownership) →
    ValidIdentifier deviceID 64
  batch : resolver.owners.isSome = true
  answers : ∀ owners ∈ resolver.owners, ∀ state deviceIDs, deviceIDs.length ≤ 1000 →
    Requestable deviceIDs [] → ∃ resolved, owners state deviceIDs = .ok resolved ∧
      ∀ deviceID : String, resolved[deviceID]? =
        if deviceID ∈ deviceIDs then current state deviceID else none
  refuses : ∀ owners ∈ resolver.owners, ∀ state deviceIDs, 1000 < deviceIDs.length →
    owners state deviceIDs = .error errInvalid

theorem exact_storeResolver : storeResolver.Exact Store.current where
  valid store deviceID ownership h := by
    by_contra hinvalid
    simp only [storeResolver, Store.owner, failIf_of_pos hinvalid, error_bind, reduceCtorEq] at h
  batch := rfl
  answers owners howners store deviceIDs hlength hrequest := by
    obtain rfl := Option.some.inj howners
    exact store.ownersOf_eq_ok hlength hrequest
  refuses owners howners store deviceIDs hlength := by
    obtain rfl := Option.some.inj howners
    exact store.ownersOf_eq_error fun h => absurd h.1 (not_le.mpr hlength)

theorem exact_postgresResolver : postgresResolver.Exact fun db => db.1.current where
  valid db deviceID ownership h := by
    by_contra hinvalid
    simp only [postgresResolver, PostgresStore.owner, if_pos hinvalid, reduceCtorEq] at h
  batch := rfl
  answers owners howners db deviceIDs hlength hrequest := by
    obtain rfl := Option.some.inj howners
    exact Database.queryOwners_eq_ok db.2 hlength hrequest
  refuses owners howners db deviceIDs hlength := by
    obtain rfl := Option.some.inj howners
    exact Database.queryOwners_eq_error fun h => absurd h.1 (not_le.mpr hlength)

/-! ## One pass -/

namespace Server

variable {σ : Type} (resolver : Resolver σ) (current : σ → String → Option Ownership)

/-- The turns of the loop among the steps of a run. -/
def turns (history : List (Served (Server σ) (Call σ))) : ℕ :=
  history.countP fun x => match x.call with
    | .turn => true
    | _ => false

/-- A pass of `ReconcileOwnership`: it copies the connections in the state `start`, the resolver
reads the ownership in the state `asked`, and the loop has had its turns in the state `finished`.
The steps of `later` are those from the answer to the end, newest first. -/
structure Reconciliation (start asked finished : Server σ) (later : List (Served (Server σ) (Call σ))) :
    Prop where
  idle : start.pass = .idle
  taken : ∃ order middle, order.Perm start.active ∧
    Run (serve resolver) (serve resolver start (.reconcile order)).1 middle asked ∧
    ∀ x ∈ middle, x.call ≠ .resolve
  loop : Run (serve resolver) (serve resolver asked .resolve).1 later finished
  alone : ∀ x ∈ later, ∀ order, x.call ≠ .reconcile order
  ended : start.connections.size ≤ turns later

/-- The connection is not opened under the ownership that its device has in a state. -/
def Differs (asked : Server σ) (pointer : ℕ) : Prop :=
  ∃ connection, asked.allocated[pointer]? = some connection ∧
    current asked.ownership connection.deviceID ≠ some connection.ownership

/-- The pass marks each connection that was live when it started, differs from the ownership that
was read and is live at the end. It marks no other connection than those that were live when it
started and when they are marked, and that differ. -/
structure Marks (start asked finished : Server σ) (later : List (Served (Server σ) (Call σ))) :
    Prop where
  ended : finished.pass = .idle
  every : ∀ pointer, start.Live pointer → finished.Live pointer → Differs current asked pointer →
    finished.Revoked pointer
  only : ∀ pointer, finished.Revoked pointer → ¬ start.Revoked pointer →
    start.Live pointer ∧ Differs current asked pointer ∧ ∃ x ∈ later, x.before.Live pointer

/-- The connections of the list are judged: those that differ are marked, and nothing else is. -/
structure Judged (asked server : Server σ) (later : List (Served (Server σ) (Call σ)))
    (judged : List ℕ) : Prop where
  every : ∀ pointer ∈ judged, server.Live pointer → Differs current asked pointer →
    server.Revoked pointer
  only : ∀ pointer, server.Revoked pointer → ¬ asked.Revoked pointer →
    pointer ∈ judged ∧ Differs current asked pointer ∧ ∃ x ∈ later, x.before.Live pointer

/-- The pass after the resolver has answered. -/
def Passed (asked : Server σ) (order : List ℕ) (resolved : Std.ExtTreeMap String Ownership)
    (later : List (Served (Server σ) (Call σ))) (server : Server σ) : Prop :=
  match server.pass with
  | .idle => Judged current asked server later order
  | .snapshot _ => False
  | .marking found remaining _ => found = resolved ∧ remaining ≠ [] ∧
      ∃ judged, order = judged ++ remaining ∧ judged.length = turns later ∧
        Judged current asked server later judged

variable {resolver current} {start asked server next finished : Server σ} {order judged : List ℕ}
  {later : List (Served (Server σ) (Call σ))} {resolved : Std.ExtTreeMap String Ownership}

theorem live_congr (hallocated : next.allocated = server.allocated) (hconnections : next.connections
    = server.connections) (pointer : ℕ) : next.Live pointer ↔ server.Live pointer := by
  rw [Live, deviceOf, hallocated, hconnections, Live, deviceOf]

/-- What marks nothing leaves the judgement as it is. -/
theorem Judged.step (h : Judged current asked server later judged) (hlater : later ⊆ more)
    (hlive : ∀ pointer ∈ judged, next.Live pointer → server.Live pointer)
    (hrevoked : ∀ pointer, next.Revoked pointer ↔ server.Revoked pointer) :
    Judged current asked next more judged where
  every pointer hmem hnext hdiffers :=
    (hrevoked pointer).mpr (h.every pointer hmem (hlive pointer hmem hnext) hdiffers)
  only pointer hnext hnot := by
    obtain ⟨hmem, hdiffers, y, hy, hbefore⟩ := h.only pointer ((hrevoked pointer).mp hnext) hnot
    exact ⟨hmem, hdiffers, y, hlater hy, hbefore⟩

theorem passed_loop (horder : order = judged ++ remaining)
    (hturns : judged.length = turns later) (h : Judged current asked server later judged) :
    Passed current asked order resolved later (server.loop resolved remaining revoked).1 := by
  have hsame : Judged current asked (server.loop resolved remaining revoked).1 later judged :=
    h.step (List.Subset.refl _)
      (fun pointer _ => (live_congr (loop_allocated ..) (loop_connections ..) pointer).mp)
      (revoked_congr (loop_allocated ..))
  unfold loop at hsame ⊢
  split
  next hempty =>
    rw [if_pos hempty] at hsame
    rw [hempty, List.append_nil] at horder
    exact horder ▸ hsame
  next hmore =>
    rw [if_neg hmore] at hsame
    exact ⟨rfl, hmore, judged, horder, hturns, hsame⟩

/-- For a connection that was opened after the checks of the handler, `Matches` compares the four
fields. -/
theorem owned_iff (hbinding : ValidBindingID
    connection.bindingID) (hrevision : ValidBindingRevision connection.bindingRevision) : Owned
    found connection ↔ found = some connection.ownership := by
  constructor
  · rintro ⟨ownership, hfound, howner, htenant, hid, hnumber, -, -⟩
    rw [Option.mem_def.mp hfound, Connection.ownership, ← howner, ← htenant, ← hid, ← hnumber]
  · intro h
    exact ⟨connection.ownership, h, rfl, rfl, rfl, rfl, hbinding, hrevision⟩

section

variable (h : Judged current asked server later judged) {pointer : ℕ}

include h

theorem Judged.snoc (hpointer : server.Live pointer → Differs current asked pointer →
    server.Revoked pointer) :
    Judged current asked server later (judged ++ [pointer]) where
  every other hmem hlive hdiffers := by
    rcases List.mem_append.mp hmem with hmem | hmem
    · exact h.every other hmem hlive hdiffers
    · obtain rfl := List.mem_singleton.mp hmem
      exact hpointer hlive hdiffers
  only other hrevoked hnot :=
    have ⟨hmem, hrest⟩ := h.only other hrevoked hnot
    ⟨List.mem_append_left _ hmem, hrest⟩

/-- Marking a live connection that differs. -/
theorem Judged.marked (hconnection : server.allocated[pointer]? = some connection)
    (hlive : server.Live pointer) (hdiffers : Differs current asked pointer) (call : Call σ) :
    Judged current asked
      { server with
        allocated := server.allocated.set pointer { connection with ownershipRevoked := true } }
      (⟨server, call⟩ :: later) (judged ++ [pointer]) where
  every other hmem hother hdiffers := by
    rw [revoked_set hconnection rfl]
    rcases List.mem_append.mp hmem with hmem | hmem
    · refine .inr (h.every other hmem ?_ hdiffers)
      obtain ⟨deviceID, hdevice, hheld⟩ := hother
      refine ⟨deviceID, Eq.trans (Eq.symm ?_) hdevice, hheld⟩
      exact deviceOf_set hconnection rfl other
    · exact .inl (List.mem_singleton.mp hmem)
  only other hrevoked hnot := by
    rcases (revoked_set hconnection rfl other).mp hrevoked with rfl | hrevoked
    · exact ⟨by simp, hdiffers, ⟨server, call⟩, List.mem_cons_self, hlive⟩
    · obtain ⟨hmem, hother, x, hx, hbefore⟩ := h.only other hrevoked hnot
      exact ⟨List.mem_append_left _ hmem, hother, x, List.mem_cons_of_mem _ hx, hbefore⟩

end

/-- What the loop relies on: the connections that it goes through are allocated, and the answer of
the resolver holds the ownership in force of each of their devices. -/
def Answered (current : σ → String → Option Ownership) (asked : Server σ) (order : List ℕ)
    (resolved : Std.ExtTreeMap String Ownership) : Prop :=
  ∀ pointer ∈ order, ∃ connection, asked.allocated[pointer]? = some connection ∧
    resolved[connection.deviceID]? = current asked.ownership connection.deviceID

theorem passed_turn (hbatch : resolver.owners.isSome = true) (hasked : Sound asked) (hanswered :
    Answered current asked order resolved) (hevolves : Evolves asked server)
    (hpass : server.pass = .marking resolved (pointer :: remaining)
    revoked) (horder : order = judged ++ pointer :: remaining) (hturns : judged.length = turns
    later) (h : Judged current asked server later judged) : Passed current asked order resolved
    (⟨server, .turn⟩ :: later) (server.turn resolver).1 := by
  have hsnoc : order = (judged ++ [pointer]) ++ remaining := by simp [horder]
  have hcount : (judged ++ [pointer]).length = turns (⟨server, .turn⟩ :: later) := by grind [turns]
  obtain ⟨first, hfirst, hfound⟩ := hanswered pointer (by simp [horder])
  obtain ⟨connection, hconnection, hdevice, howner, -⟩ := hevolves.kept pointer first hfirst
  obtain ⟨-, hbinding, hrevision⟩ := hasked.valid pointer first hfirst
  rw [← show connection.bindingID = first.bindingID from congrArg Ownership.bindingID howner]
    at hbinding
  rw [← show connection.bindingRevision = first.bindingRevision from
    congrArg Ownership.bindingRevision howner] at hrevision
  -- The fields that the loop compares are those that the connection had when the resolver answered.
  have howned : Owned resolved[connection.deviceID]? connection ↔ ¬ Differs current asked pointer := by
    rw [owned_iff hbinding hrevision, hdevice, hfound, howner, Differs]
    constructor
    · grind
    · grind
  have hstep : Judged current asked server (⟨server, .turn⟩ :: later) judged :=
    h.step (List.subset_cons_self ..) (fun _ _ => id) fun _ => Iff.rfl
  have hturn : server.turn resolver =
      if Owned resolved[connection.deviceID]? connection then server.loop resolved remaining revoked
      else server.mark resolved remaining revoked pointer connection := by
    simp only [turn, hpass, hconnection, lookup, hbatch, if_true]
  rw [hturn]
  split
  next hmatches =>
    exact passed_loop hsnoc hcount (hstep.snoc fun _ hdiffers => absurd hdiffers (howned.mp hmatches))
  next hdiffers =>
    rw [howned, not_not] at hdiffers
    unfold mark
    split
    next hmark =>
      have hlive : server.Live pointer :=
        ⟨connection.deviceID, by rw [deviceOf, hconnection, Option.map_some], hmark.1⟩
      exact passed_loop hsnoc hcount (h.marked hconnection hlive hdiffers .turn)
    next hmark =>
      -- The connection is live, so it was marked before.
      refine passed_loop hsnoc hcount (hstep.snoc fun hlive _ => ⟨connection, hconnection, ?_⟩)
      obtain ⟨deviceID, hdeviceOf, hheld⟩ := hlive
      rw [deviceOf, hconnection, Option.map_some, Option.some.injEq] at hdeviceOf
      by_contra hunmarked
      exact hmark ⟨hdeviceOf ▸ hheld, Bool.eq_false_iff.mpr hunmarked⟩

theorem passed_serve (hexact : resolver.Exact current) (hasked : Sound asked) (hanswered : Answered
    current asked order resolved) (hevolves : Evolves asked server) (hcall : ∀
    order, call ≠ .reconcile order) (h : Passed current asked order resolved later server) : Passed
    current asked order resolved (⟨server, call⟩ :: later) (serve resolver server call).1 := by
  have hlive : ∀ pointer ∈ order, (serve resolver server call).1.Live pointer → server.Live pointer := by
    intro pointer hmem
    obtain ⟨first, hfirst, -⟩ := hanswered pointer hmem
    have hlt := (List.getElem?_eq_some_iff.mp hfirst).1.trans_le hevolves.length_le
    exact (server.serve_effect resolver hexact.valid call).evolves.live pointer hlt
  by_cases hdue : call = .turn ∧ ∃ found pointer remaining revoked,
      server.pass = .marking found (pointer :: remaining) revoked
  · obtain ⟨rfl, found, pointer, remaining, revoked, hpass⟩ := hdue
    rw [Passed, hpass] at h
    obtain ⟨rfl, -, judged, horder, hturns, hjudged⟩ := h
    exact passed_turn hexact.batch hasked hanswered hevolves hpass horder hturns hjudged
  · -- A step that is not a turn of the loop leaves the pass where it is.
    have hturn : server.NotTurn call := fun found pointer remaining revoked hpass hcall =>
      hdue ⟨hcall, found, pointer, remaining, revoked, hpass⟩
    have hrevoked := revoked_serve resolver hturn
    have hstays : (serve resolver server call).1.pass = server.pass := by
      grind [pass_serve, active, Passed]
    rw [Passed, hstays]
    cases hpass : server.pass with
    | idle =>
      rw [Passed, hpass] at h
      exact h.step (List.subset_cons_self ..) hlive hrevoked
    | snapshot active =>
      rw [Passed, hpass] at h
      exact h.elim
    | marking found remaining revoked =>
      rw [Passed, hpass] at h
      obtain ⟨hfound, hmore, judged, horder, hturns, hjudged⟩ := h
      have hcall : call ≠ .turn := by
        obtain ⟨pointer, rest, rfl⟩ := List.exists_cons_of_ne_nil hmore
        exact hturn found pointer rest revoked hpass
      refine ⟨hfound, hmore, judged, horder, ?_,
        hjudged.step (List.subset_cons_self ..)
          (fun pointer hmem => hlive pointer (by simp [horder, hmem])) hrevoked⟩
      rw [hturns, turns, turns, List.countP_cons_of_neg]
      cases call <;> simp at hcall ⊢

/-! ## Runs -/

section

variable (hexact : resolver.Exact current) {history : List (Served (Server σ) (Call σ))}
  (hrun : Run (serve resolver) server history next)

include hexact hrun

theorem evolves_run : Evolves server next :=
  hrun.invariant (fun state call h => h.trans (state.serve_effect resolver hexact.valid call).evolves)
    (.refl server)

theorem sound_run (h : Sound server) : Sound next :=
  hrun.invariant (fun state call => (state.serve_effect resolver hexact.valid call).sound) h

end

theorem sound_newServer (limit : ℕ) (ownership : σ) : Sound (newServer limit ownership) := by
  constructor <;> simp [newServer]

/-- While no loop is under way and the step that is due does not come, the pass stays where it is and
nothing is marked. -/
theorem waiting_run {history : List (Served (Server σ) (Call σ))} (hrun : Run (serve resolver)
    server history next) (hpass : ∀ found remaining revoked, server.pass ≠ .marking found remaining
    revoked) (hreconcile : server.pass = .idle → ∀ x ∈ history, ∀ order, x.call ≠ .reconcile order)
    (hresolve : ∀ active, server.pass = .snapshot active → ∀ x ∈ history, x.call ≠ .resolve) :
    next.pass = server.pass ∧ ∀ pointer, next.Revoked pointer ↔ server.Revoked pointer := by
  induction hrun with
  | nil => exact ⟨rfl, fun _ => Iff.rfl⟩
  | @step history state call run ih =>
    obtain ⟨hstate, hrevoked⟩ := ih
      (fun hidle x hx => hreconcile hidle x (List.mem_cons_of_mem _ hx))
      (fun active hactive x hx => hresolve active hactive x (List.mem_cons_of_mem _ hx))
    have hturn : state.NotTurn call := fun found pointer remaining revoked h =>
      absurd (hstate ▸ h) (hpass found _ revoked)
    refine ⟨?_, fun pointer => (revoked_serve resolver hturn pointer).trans (hrevoked pointer)⟩
    rw [pass_serve resolver (fun h => hreconcile (hstate ▸ h) _ List.mem_cons_self)
      (fun active h => hresolve active (hstate ▸ h) _ List.mem_cons_self) hturn, hstate]

section

variable (hexact : resolver.Exact current)

include hexact

theorem passed_run (hasked : Sound asked) (hanswered : Answered
    current asked order resolved) (hserver : Evolves asked server) (hpassed : Passed current asked
    order resolved [] server) (hrun : Run (serve resolver) server later next) (hcalls : ∀ x ∈ later,
    ∀ order, x.call ≠ .reconcile order) : Passed current asked order resolved later next := by
  induction hrun with
  | nil => exact hpassed
  | @step history state call run ih =>
    exact passed_serve hexact hasked hanswered (hserver.trans (evolves_run hexact run))
      (hcalls _ List.mem_cons_self) (ih fun x hx => hcalls x (List.mem_cons_of_mem _ hx))

theorem judged_of_size_le (hasked : Sound asked) (hpass :
    asked.pass = .snapshot order) (hlength : order.length ≤ 1000) (hallocated : ∀ pointer ∈ order,
    pointer < asked.allocated.length) (hrequest : Requestable (order.filterMap asked.deviceOf) [])
    (hrun : Run (serve resolver) (serve resolver asked .resolve).1 later finished) (hcalls : ∀ x ∈
    later, ∀ order, x.call ≠ .reconcile order) (hturns : order.length ≤ turns later) : finished.pass
    = .idle ∧ Judged current asked finished later order := by
  obtain ⟨owners, howners⟩ := Option.isSome_iff_exists.mp hexact.batch
  obtain ⟨resolved, hresolved, hfound⟩ := hexact.answers owners howners asked.ownership
    (order.filterMap asked.deviceOf) ((List.length_filterMap_le ..).trans hlength) hrequest
  have hresolve : (serve resolver asked .resolve).1 = (asked.loop resolved order []).1 := by
    simp only [serve, resolve, hpass, howners, hresolved]
  have hanswered : Answered current asked order resolved := by
    intro pointer hmem
    have hconnection := List.getElem?_eq_getElem (hallocated pointer hmem)
    refine ⟨_, hconnection, ?_⟩
    rw [hfound, if_pos]
    exact List.mem_filterMap.mpr ⟨pointer, hmem, by rw [deviceOf, hconnection, Option.map_some]⟩
  have hnone : Judged current asked asked [] [] :=
    ⟨fun _ hmem => absurd hmem List.not_mem_nil, fun _ h hnot => absurd h hnot⟩
  have hevolves : Evolves asked (serve resolver asked .resolve).1 :=
    (asked.serve_effect resolver hexact.valid .resolve).evolves
  have hpassed : Passed current asked order resolved later finished :=
    passed_run hexact hasked hanswered hevolves
      (hresolve ▸ passed_loop (List.nil_append order).symm rfl hnone) hrun hcalls
  rw [Passed] at hpassed
  cases hend : finished.pass with
  | idle => grind
  | snapshot active =>
    rw [hend] at hpassed
    exact hpassed.elim
  | marking found remaining revoked => grind [List.length, List.length_append, List.length_pos_iff]

theorem resolve_refused (hpass : asked.pass = .snapshot order)
    (hlength : 1000 < (order.filterMap asked.deviceOf).length) :
    (serve resolver asked .resolve).1 = { asked with pass := .idle } := by
  obtain ⟨owners, howners⟩ := Option.isSome_iff_exists.mp hexact.batch
  simp only [serve, resolve, hpass, howners,
    hexact.refuses owners howners asked.ownership _ hlength]

/-- A pass marks what it should if the resolver takes the list, and otherwise only when there is
nothing to mark. -/
theorem marks_iff (hstart : Sound start) (h : Reconciliation
    resolver start asked finished later) : Marks current start asked finished later ↔
    start.connections.size ≤ 1000 ∨ ∀ pointer, start.Live pointer → finished.Live pointer → Differs
    current asked pointer → start.Revoked pointer := by
  obtain ⟨order, middle, hperm, hmiddle, hnotResolve⟩ := h.taken
  have htaken : (serve resolver start (.reconcile order)).1 = { start with pass := .snapshot order } := by
    simp only [serve, reconcile, h.idle, if_pos hperm]
  rw [htaken] at hmiddle
  obtain ⟨hpass, hrevoked⟩ := waiting_run hmiddle (by simp) (by simp) (fun _ _ => hnotResolve)
  have hrevoked : ∀ pointer, asked.Revoked pointer ↔ start.Revoked pointer := hrevoked
  have hsnapshot : Effect start { start with pass := .snapshot order } := .unchanged rfl rfl
  have hevolves : Evolves start asked := hsnapshot.evolves.trans (evolves_run hexact hmiddle)
  have hasked : Sound asked := sound_run hexact hmiddle (hsnapshot.sound hstart)
  have hmem : ∀ pointer, pointer ∈ order ↔ start.Live pointer :=
    fun pointer => hperm.mem_iff.trans (mem_active hstart)
  obtain ⟨hsize, hrequest⟩ := deviceIDs_requestable hstart hasked hperm hevolves
  have hlength : order.length = start.connections.size := by
    rw [hperm.length_eq, active, List.length_map, Std.ExtTreeMap.length_toList]
  by_cases hle : start.connections.size ≤ 1000
  · refine ⟨fun _ => .inl hle, fun _ => ?_⟩
    obtain ⟨hover, hjudged⟩ := judged_of_size_le hexact hasked hpass (hlength ▸ hle)
      (fun pointer hpointer =>
        (live_lt_length ((hmem pointer).mp hpointer)).trans_le hevolves.length_le)
      hrequest h.loop h.alone (hlength ▸ h.ended)
    refine ⟨hover, fun pointer hlive => hjudged.every pointer ((hmem pointer).mpr hlive),
      fun pointer hmarked hnot => ?_⟩
    obtain ⟨hpointer, hrest⟩ := hjudged.only pointer hmarked (fun h => hnot ((hrevoked pointer).mp h))
    exact ⟨(hmem pointer).mp hpointer, hrest⟩
  · have hloop := h.loop
    rw [resolve_refused hexact hpass (hsize ▸ not_le.mp hle)] at hloop
    obtain ⟨hover, hsame⟩ := waiting_run hloop (by simp) (fun _ => h.alone) (by simp)
    have hnone : ∀ pointer, finished.Revoked pointer ↔ start.Revoked pointer :=
      fun pointer => (hsame pointer).trans (hrevoked pointer)
    constructor
    · intro hmarks
      exact .inr fun pointer hlive hend hdiffers =>
        (hnone pointer).mp (hmarks.every pointer hlive hend hdiffers)
    · intro hcondition
      exact ⟨hover, fun pointer hlive hend hdiffers =>
          (hnone pointer).mpr (hcondition.resolve_left hle pointer hlive hend hdiffers),
        fun pointer hmarked hnot => absurd ((hnone pointer).mp hmarked) hnot⟩

end

end Server

/-- In every run with the limit of connections, a pass marks what it should if and only if at most
1000 connections are live when it starts, or those that it should mark are marked already. -/
def Resolver.Reconciles {σ : Type} (resolver : Resolver σ)
    (current : σ → String → Option Ownership) (limit : ℕ) : Prop :=
  ∀ (ownership : σ) (history later : List (Served (Server σ) (Call σ)))
    (start asked finished : Server σ),
    Run (Server.serve resolver) (newServer limit ownership) history start →
    Server.Reconciliation resolver start asked finished later →
    (Server.Marks current start asked finished later ↔ start.connections.size ≤ 1000 ∨
      ∀ pointer, start.Live pointer → finished.Live pointer → Server.Differs current asked pointer →
        start.Revoked pointer)

/-- Both stores limit a batch to 1000 devices, and the number of connections can be larger. -/
theorem reconcileOwnership_marks (limit : ℕ) : storeResolver.Reconciles Store.current limit ∧
    postgresResolver.Reconciles (fun db => db.1.current) limit :=
  ⟨fun ownership _ _ _ _ _ hrun hpass => Server.marks_iff exact_storeResolver
      (Server.sound_run exact_storeResolver hrun (Server.sound_newServer limit ownership)) hpass,
    fun ownership _ _ _ _ _ hrun hpass => Server.marks_iff exact_postgresResolver
      (Server.sound_run exact_postgresResolver hrun (Server.sound_newServer limit ownership)) hpass⟩

/-! ## A large fleet -/

/-- The name of a device of the fleet. -/
def fleetDevice (n : ℕ) : String := String.ofList (formatNat n)

theorem fleetDevice_inj : fleetDevice m = fleetDevice n ↔ m = n := by
  grind [fleetDevice, parseNat, String.ofList_injective, parseNat_formatNat, Option.some.injEq]

theorem validIdentifier_fleetDevice (h : n < 10 ^ 64) : ValidIdentifier (fleetDevice n) 64 := by
  have hdigit : ∀ c ∈ formatNat n, c.isDigit = true := fun c => isDigit_of_mem_formatNat
  refine ⟨fun hempty => formatNat_ne_nil n ?_, ?_, ?_⟩
  · rw [← String.toList_ofList (l := formatNat n), ← fleetDevice, hempty, String.toList_empty]
  · rw [fleetDevice, String.toList_ofList, byteLength_of_ascii]
    · exact length_formatNat_le (by decide) h
    · intro c hc
      have hrange := hdigit c hc
      simp only [Char.isDigit, Bool.and_eq_true, decide_eq_true_eq, ge_iff_le,
        UInt32.le_iff_toNat_le] at hrange
      exact Nat.lt_of_le_of_lt hrange.2 (by decide)
  · rw [fleetDevice, String.toList_ofList]
    intro c hc
    rw [isIdentifierChar, hdigit c hc]
    simp

def fleetOwner : Ownership :=
  ⟨"owner", "tenant", Base64.encodeToString (List.replicate bindingBytes 0), 1⟩

/-- The owners of the first devices of the fleet: all in force, or all released. -/
def fleet (active : Bool) : ℕ → Std.ExtTreeMap String OwnershipEntry
  | 0 => ∅
  | n + 1 => (fleet active n).insert (fleetDevice n) ⟨fleetOwner, active⟩

theorem getElem?_fleet (active : Bool) (h : i < n) :
    (fleet active n)[fleetDevice i]? = some ⟨fleetOwner, active⟩ := by
  induction n with
  | zero => cases h
  | succ n ih => grind [fleet, fleetDevice]

/-- The store with the 1001 devices of the fleet. -/
def fleetStore (active : Bool) : Store := ⟨minute, 1000, ∅, ∅, fleet active 1001, ∅⟩

theorem current_fleetStore (active : Bool) (h : i < 1001) :
    (fleetStore active).current (fleetDevice i) = if active then some fleetOwner else none := by
  rw [Store.current, fleetStore, getElem?_fleet active h]
  cases active <;> rfl

def fleetConnection (n : ℕ) : Connection :=
  ⟨fleetDevice n, fleetOwner.ownerID, fleetOwner.tenantID, fleetOwner.bindingID,
    fleetOwner.bindingRevision, false⟩

/-- The devices connect one after the other; the newest call comes first. -/
def fleetCalls : ℕ → List (Call Store)
  | 0 => []
  | n + 1 => .device (fleetStore true) (fleetDevice n) fleetOwner.ownerID fleetOwner.tenantID
      fleetOwner.bindingID fleetOwner.bindingRevision true :: fleetCalls n

def fleetServer (n : ℕ) : Server Store :=
  (replay (Server.serve storeResolver) (newServer 1001 (fleetStore true)) (fleetCalls n)).2

theorem fleetServer_succ (hn : n < 1001) (hlimit : (fleetServer n).limit = 1001) (hsize :
    (fleetServer n).connections.size = n) (hnew : (fleetServer n).connections.contains (fleetDevice
    n) = false) : fleetServer (n + 1) = (fleetServer n).addConnection (fleetConnection n) := by
  have howner : storeResolver.owner (fleetStore true) (fleetDevice n) = .ok (some fleetOwner) := by
    show (fleetStore true).owner (fleetDevice n) = _
    rw [Store.owner, failIf_of_neg, current_fleetStore true hn]
    · rfl
    · exact not_not.mpr (validIdentifier_fleetDevice (hn.trans (by decide)))
  have hmatches : fleetOwner.Matches fleetOwner.ownerID fleetOwner.tenantID fleetOwner.bindingID
      fleetOwner.bindingRevision := by
    refine ⟨rfl, rfl, rfl, rfl, ?_, by decide⟩
    exact Base64.canonical_encodeToString (List.replicate bindingBytes 0)
  have hacquire : (fleetServer n).acquire (fleetDevice n) = true := by grind [Server.acquire]
  show (fleetServer n).device storeResolver (fleetStore true) (fleetDevice n) _ _ _ _ true = _
  simp only [Server.device, howner, hmatches, hacquire, and_self, if_true]
  rfl

/-- The server after the first devices of the fleet have connected. -/
structure FleetConnected (n : ℕ) (server : Server Store) : Prop where
  limit : server.limit = 1001
  idle : server.pass = .idle
  length : server.allocated.length = n
  size : server.connections.size = n
  allocated : ∀ i < n, server.allocated[i]? = some (fleetConnection i)
  held : ∀ i : ℕ, server.connections[fleetDevice i]? = if i < n then some i else none

theorem fleetConnected (n : ℕ) (hn : n ≤ 1001) : FleetConnected n (fleetServer n) := by
  induction n with
  | zero => exact ⟨rfl, rfl, rfl, rfl, by simp, by simp [fleetServer, fleetCalls, replay, newServer]⟩
  | succ n ih =>
    have h := ih (by omega)
    have hnew : (fleetServer n).connections.contains (fleetDevice n) = false := by
      rw [Std.ExtTreeMap.contains_eq_isSome_getElem?, h.held, if_neg (lt_irrefl n), Option.isSome_none]
    rw [fleetServer_succ hn h.limit h.size hnew]
    refine ⟨h.limit, h.idle, ?_, ?_, fun i hi => ?_, fun i => ?_⟩
    · simp [Server.addConnection, h.length]
    · rw [Server.addConnection, Std.ExtTreeMap.size_insert, fleetConnection,
        if_neg (Bool.eq_false_iff.mp hnew), h.size]
    · rw [Server.addConnection, List.getElem?_append, h.length]
      split
      next hlt => exact h.allocated i hlt
      next hge => grind
    · rw [Server.addConnection, Map.getElem?_insert, h.length, h.held]
      by_cases heq : i = n
      · subst heq
        simp [fleetConnection]
      · grind [fleetDevice, fleetDevice_inj, fleetConnection]

theorem exists_fleetConnected (hn : n ≤ 1001) : ∃ history server, Run (Server.serve
    storeResolver) (newServer 1001 (fleetStore true)) history server ∧ FleetConnected n server :=
  ⟨_, _, run_replay (Server.serve storeResolver) (newServer 1001 (fleetStore true)) (fleetCalls n),
    fleetConnected n hn⟩

theorem turns_replay {σ : Type} (resolver : Resolver σ) (server : Server σ) (h : server.pass =
    .idle) (n : ℕ) : (replay (Server.serve resolver) server (List.replicate n .turn)).2 = server ∧
    Server.turns (replay (Server.serve resolver) server (List.replicate n .turn)).1 = n := by
  induction n with
  | zero => exact ⟨rfl, rfl⟩
  | succ n ih => grind [replay, Server.serve, Server.turn, Server.turns]

/-- The server in a pass after the fleet is released. -/
def released (server : Server Store) (pass : Pass) : Server Store :=
  { server with
    ownership := fleetStore false
    pass }

theorem FleetConnected.reconciliation {n : ℕ} {server : Server Store} (h : FleetConnected n server)
    (hn : 1000 < n) (hsound : Server.Sound server) :
    ∃ later, Server.Reconciliation storeResolver (released server .idle)
      (released server (.snapshot server.active)) (released server .idle) later := by
  have htaken : (Server.serve storeResolver (released server .idle) (.reconcile server.active)).1 =
      released server (.snapshot server.active) := if_pos (List.Perm.refl server.active)
  have hlength : 1000 < (server.active.filterMap server.deviceOf).length := by
    rwa [(Server.deviceIDs_requestable hsound hsound (List.Perm.refl _) (.refl server)).1, h.size]
  have hresolve : (Server.serve storeResolver (released server (.snapshot server.active)) .resolve).1 =
      released server .idle := Server.resolve_refused exact_storeResolver rfl hlength
  obtain ⟨hstate, hturns⟩ := turns_replay storeResolver (released server .idle) rfl n
  have hrun := run_replay (Server.serve storeResolver) (released server .idle)
    (List.replicate n .turn)
  rw [hstate] at hrun
  refine ⟨_, rfl, ⟨server.active, [], List.Perm.refl _, htaken ▸ .nil, by simp⟩,
    by rw [hresolve]; exact hrun, fun x hx order => ?_, hturns ▸ h.size.le⟩
  rw [List.eq_of_mem_replicate (call_mem_of_mem_replay hx)]
  nofun

/-- The 1001 devices of the fleet connect and are then released. The pass finds 1001 live
connections, none of which has an owner any more, and it marks none of them. -/
theorem large_fleet_not_revoked : ∃ (history later : List (Served (Server Store) (Call Store)))
    (start asked finished : Server Store), Run (Server.serve storeResolver) (newServer 1001
    (fleetStore true)) history start ∧ Server.Reconciliation storeResolver start asked finished
    later ∧ (∀ pointer < 1001, start.Live pointer ∧ finished.Live pointer ∧ Server.Differs
    Store.current asked pointer ∧ ¬ finished.Revoked pointer) ∧ ¬ Server.Marks Store.current start
    asked finished later := by
  obtain ⟨history, server, hrun, hfleet⟩ := exists_fleetConnected (le_refl 1001)
  obtain ⟨later, hpass⟩ := hfleet.reconciliation (by decide)
    (Server.sound_run exact_storeResolver hrun (Server.sound_newServer _ _))
  have hreleased := Run.step (.ownership (fleetStore false)) hrun
  have hstart : (Server.serve storeResolver server (.ownership (fleetStore false))).1 =
      released server .idle := by
    rw [released, ← hfleet.idle]
    rfl
  rw [hstart] at hreleased
  have hlive : ∀ pointer < 1001, server.Live pointer := by
    intro pointer hpointer
    refine ⟨fleetDevice pointer, ?_, ?_⟩
    · rw [Server.deviceOf, hfleet.allocated pointer hpointer]
      rfl
    · rw [hfleet.held, if_pos hpointer]
  have hunmarked : ∀ pointer < 1001, ¬ server.Revoked pointer := by
    rintro pointer hpointer ⟨connection, hconnection, hrevoked⟩
    obtain rfl := Option.some.inj ((hfleet.allocated pointer hpointer).symm.trans hconnection)
    cases hrevoked
  have hdiffers : ∀ pointer < 1001,
      Server.Differs Store.current (released server (.snapshot server.active)) pointer := by
    intro pointer hpointer
    refine ⟨fleetConnection pointer, hfleet.allocated pointer hpointer, ?_⟩
    show (fleetStore false).current (fleetDevice pointer) ≠ _
    rw [current_fleetStore false hpointer]
    nofun
  refine ⟨_, later, _, _, _, hreleased, hpass, fun pointer hpointer => ⟨hlive pointer hpointer,
    hlive pointer hpointer, hdiffers pointer hpointer, hunmarked pointer hpointer⟩, fun hmarks => ?_⟩
  exact hunmarked 0 (by decide)
    (hmarks.every 0 (hlive 0 (by decide)) (hlive 0 (by decide)) (hdiffers 0 (by decide)))

end XiaozhiPlatform.VoiceServer
