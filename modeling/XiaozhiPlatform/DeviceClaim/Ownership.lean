import XiaozhiPlatform.DeviceClaim.Index
import XiaozhiPlatform.GoLib.Run

/-!
# Ownership of a device

A device has no owner at first, is bound to an owner by `Confirm` and set free by `Release`. Its
binding revision counts these changes, so a binding identifier with a revision names one period of
ownership: `Moves` is this machine for one device, without the store around it.

- `Moves.revision_lt`: every change of the machine raises the revision.
- `Effect.moves`: the reference store runs the machine of every device.
- `ownership_runs`: in every run of the store a device has at most one owner in force, every change
  raises its revision, and a pair of binding identifier and revision that stops to be current is
  never current again.
-/

namespace XiaozhiPlatform.DeviceClaim

open GoLib Auth

/-! ## The machine of one device -/

/-- The revision of the last ownership of a device, zero before the first one. -/
def revision (entry : Option OwnershipEntry) : ℕ := entry.elim 0 fun owner => owner.bindingRevision.toNat

/-- The changes of the last ownership of a device. -/
inductive Moves : Option OwnershipEntry → Option OwnershipEntry → Prop
  | keep (last : Option OwnershipEntry) : Moves last last
  | bind {last : Option OwnershipEntry} {entry : OwnershipEntry}
      (hfree : ∀ owner ∈ last, owner.active = false)
      (hroom : ∀ owner ∈ last, owner.bindingRevision < maximumBindingRevision)
      (hactive : entry.active = true) (hrevision : entry.bindingRevision = nextRevision last) :
      Moves last (some entry)
  | release {entry : OwnershipEntry} (hactive : entry.active = true)
      (hroom : entry.bindingRevision < maximumBindingRevision) :
      Moves (some entry)
        (some { entry with bindingRevision := entry.bindingRevision + 1, active := false })

theorem toNat_add_one_of_lt (h : value < maximumBindingRevision) :
    (value + 1).toNat = value.toNat + 1 := by
  have hlt : value.toNat < 2 ^ 32 - 1 := UInt64.lt_iff_toNat_lt.mp h
  rw [UInt64.toNat_add, UInt64.toNat_one, Nat.mod_eq_of_lt (by omega)]

variable {last : Option OwnershipEntry}

theorem revision_nextRevision
    (hroom : ∀ owner ∈ last, owner.bindingRevision < maximumBindingRevision) :
    (nextRevision last).toNat = revision last + 1 := by
  cases last with
  | none => rfl
  | some owner => exact toNat_add_one_of_lt (hroom owner rfl)

theorem Moves.revision_lt (h : Moves last next) : next = last ∨ revision last < revision next := by
  cases h with
  | keep => exact Or.inl rfl
  | bind _ hroom _ hrevision =>
    right
    rw [revision, revision, Option.elim_some, hrevision, revision_nextRevision hroom]
    exact Nat.lt_succ_self _
  | release _ hroom =>
    right
    simp only [revision, Option.elim_some, toNat_add_one_of_lt hroom]
    exact Nat.lt_succ_self _

/-! ## The reference store -/

namespace Store

variable {store next : Store} {call : Call}

theorem moves_bindOwner {deviceID : String} {record : StoredRecord} {random : List UInt8} {owners :
    Std.ExtTreeMap String OwnershipEntry} (h : store.bindOwner deviceID record random = .ok owners)
    (device : String) : Moves store.owners[device]? owners[device]? := by
  rw [bindOwner] at h
  split at h
  · obtain rfl := Except.ok.inj h
    exact .keep _
  next hfree =>
    obtain ⟨entry, hentry, howners⟩ := (bind_eq_ok _ _ _).mp h
    obtain rfl := Except.ok.inj howners
    obtain ⟨bindingID, -, hroom, rfl⟩ := newOwner_eq_ok.mp hentry
    rw [Map.getElem?_insert]
    split
    next heq =>
      subst heq
      refine .bind (fun owner howner => ?_) hroom rfl rfl
      by_contra hactive
      exact hfree ⟨owner, howner, by simpa using hactive⟩
    next hne => exact .keep _

/-- Every call moves the machine of every device. -/
theorem Effect.moves (h : store.Effect call next) (device : String) :
    Moves store.owners[device]? next.owners[device]? := by
  cases h with
  | same => exact .keep _
  | swept _ now =>
    rw [owners_cleanup]
    exact .keep _
  | nonce _ key now =>
    rw [show ((store.cleanup now).useNonce key now).owners = store.owners from owners_cleanup]
    exact .keep _
  | @registered _ _ _ _ _ now key record =>
    rw [show (((store.cleanup now).useNonce key now).addClaim record).owners = store.owners from
      owners_cleanup]
    exact .keep _
  | confirmed _ _ _ _ howners => grind [moves_bindOwner, owners_cleanup]
  | @released _ _ deviceID _ entry hentry hactive hroom =>
    simp only [Map.getElem?_insert]
    split
    next heq =>
      rw [← heq, hentry]
      exact .release hactive hroom
    next hne => exact .keep _

theorem versioned_owners (device : String) :
    Versioned Store.serve (fun _ => True) (fun store => store.owners[device]?) revision where
  invariant _ _ _ := trivial
  step store input _ := ((effect_serve store input).moves device).revision_lt

/-- The owners of a device that are in force. -/
def activeOwners (store : Store) (device : String) : List Ownership :=
  (store.owners.toList.filter fun entry => entry.1 = device && entry.2.active).map
    fun entry => entry.2.toOwnership

/-- A binding identifier and a revision that match the current ownership of a device. -/
def IsCurrent (store : Store) (device bindingID : String) (bindingRevision : UInt64) : Prop :=
  ∃ ownership ∈ store.current device,
    ownership.bindingID = bindingID ∧ ownership.bindingRevision = bindingRevision

theorem length_activeOwners_le (store : Store) (device : String) :
    (store.activeOwners device).length ≤ 1 := by
  rw [activeOwners, List.length_map]
  have hpairs := (Map.pairwise_toList (m := store.owners)).filter fun entry =>
    entry.1 = device && entry.2.active
  have hdevice : ∀ x ∈ store.owners.toList.filter fun entry => entry.1 = device && entry.2.active,
      x.1 = device := fun x hx => by
    simpa using (Bool.and_eq_true_iff.mp (List.mem_filter.mp hx).2).1
  generalize (store.owners.toList.filter fun entry => entry.1 = device && entry.2.active) = found
    at hpairs hdevice
  -- Two entries of one device would have the same key.
  match found with
  | [] => simp
  | [_] => simp
  | x :: y :: _ => grind

theorem revision_of_isCurrent (h : store.IsCurrent device bindingID bindingRevision) :
    revision store.owners[device]? = bindingRevision.toNat := by
  obtain ⟨ownership, hcurrent, -, rfl⟩ := h
  simp only [current, Option.mem_def, Option.map_eq_some_iff, Option.filter_eq_some_iff] at hcurrent
  obtain ⟨entry, ⟨hentry, -⟩, rfl⟩ := hcurrent
  rw [hentry]
  rfl

/-- In every run of the store, with any arguments, random bytes and clock, a device has at most one
owner in force, every change of its ownership raises its revision, and a binding identifier with a
revision that ceases to be current stays so. -/
theorem ownership_runs {init store : Store} {history : List (Served Store (Call × List UInt8))}
    (hrun : Run Store.serve init history store) (device : String) : (store.activeOwners
    device).length ≤ 1 ∧ (∀ x ∈ history, x.before.owners[device]? ≠ (x.after
    Store.serve).owners[device]? → revision x.before.owners[device]? < revision (x.after
    Store.serve).owners[device]?) ∧ ∀ (bindingID : String) (bindingRevision : UInt64) (later earlier
    : List (Served Store (Call × List UInt8))) (x : Served Store (Call × List UInt8)), history =
    later ++ x :: earlier → x.before.IsCurrent device bindingID bindingRevision → ¬ (x.after
    Store.serve).IsCurrent device bindingID bindingRevision → ¬ store.IsCurrent device bindingID
    bindingRevision ∧ ∀ y ∈ later, ¬ y.before.IsCurrent device bindingID bindingRevision := by
  have hversion := versioned_owners device
  refine ⟨length_activeOwners_le store device, fun x _ hchange => ?_, ?_⟩
  · exact (hversion.step x.before x.call trivial).resolve_left fun heq => hchange heq.symm
  · rintro bindingID bindingRevision later earlier x rfl hbefore hafter
    have hchanged : (x.after Store.serve).owners[device]? ≠ x.before.owners[device]? := by
      grind [IsCurrent, current]
    -- Any later state has a larger revision than the pair.
    have hlarger : ∀ {past : List (Served Store (Call × List UInt8))} {state : Store},
        Run Store.serve (x.after Store.serve) past state →
        ¬ state.IsCurrent device bindingID bindingRevision := by
      intro past state hpast hcurrent
      have hlt := hversion.lt_of_changed trivial hchanged hpast
      rw [revision_of_isCurrent hbefore, revision_of_isCurrent hcurrent] at hlt
      exact lt_irrefl _ hlt
    have hlater := hrun.split.2
    refine ⟨hlarger hlater, fun y hy => ?_⟩
    obtain ⟨past, hpast⟩ := hlater.before hy
    exact hlarger hpast

/-! A device that is paired, released and paired again. -/

def exampleStore : Store := ⟨minute, 1, ∅, ∅, ∅, ∅⟩

def exampleCode : String := Base64.encodeToString (List.replicate claimBytes 0)

def exampleNonce : String := Base64.encodeToString (List.replicate nonceBytes 0)

def exampleRandom : List UInt8 := List.replicate 16 0

def exampleBegin : Call × List UInt8 :=
  (.begin "user-1" "tenant-1" "device-1" exampleCode exampleNonce 0, exampleRandom)

def exampleConfirm : Call × List UInt8 := (.confirm "device-1" exampleCode 0, exampleRandom)

def exampleRelease : Call × List UInt8 := (.release "user-1" "tenant-1" "device-1" 0, exampleRandom)

theorem ownership_runs_released :
    ((((exampleStore.serve exampleBegin).1.serve exampleConfirm).1.serve
      exampleRelease).1.activeOwners "device-1").length ≤ 1 :=
  (ownership_runs (.step exampleRelease (.step exampleConfirm (.step exampleBegin .nil)))
    "device-1").1

end Store

end XiaozhiPlatform.DeviceClaim
