import XiaozhiPlatform.DeviceClaim.Transactions

/-!
# Owners of a batch of devices

`Owners` takes a list of devices and returns the ownership in force of each of them. Both stores
refuse a list of more than 1000 devices, an identifier that is not valid and one that occurs twice,
and both return the same map otherwise: the reference store reads one device after the other, the
PostgreSQL store checks the list first and then scans the rows of one query.

- `ownersOf_eq_ok`, `ownersOf_eq_error`: the reference store.
- `queryOwners_eq_ok`, `queryOwners_eq_error`: the PostgreSQL store.
-/

namespace XiaozhiPlatform.DeviceClaim

open GoLib Auth Sql

/-- A list of devices that the loops of `Owners` accept after they have seen others. -/
def Requestable (deviceIDs seen : List String) : Prop :=
  (∀ deviceID ∈ deviceIDs, ValidIdentifier deviceID 64 ∧ deviceID ∉ seen) ∧ deviceIDs.Nodup
deriving Decidable

theorem requestable_nil (seen : List String) : Requestable [] seen := ⟨by simp, .nil⟩

variable {seen : List String}

theorem requestable_cons : Requestable (deviceID :: rest) seen ↔
      ValidIdentifier deviceID 64 ∧ deviceID ∉ seen ∧ Requestable rest (deviceID :: seen) := by
  rw [Requestable, List.forall_mem_cons, List.nodup_cons]
  simp only [Requestable, List.mem_cons, not_or]
  constructor
  · grind
  · grind

/-! ## The reference store -/

variable {deviceIDs : List String}

namespace Store

variable (store : Store)

theorem ownersLoop_eq_ok (h : Requestable deviceIDs seen) (owners :
    Std.ExtTreeMap String Ownership) : ∃ result, store.ownersLoop deviceIDs seen owners = .ok result
    ∧ ∀ device : String, result[device]? = if device ∈ deviceIDs then (store.current device).or
    owners[device]? else owners[device]? := by
  induction deviceIDs generalizing seen owners with
  | nil => exact ⟨owners, rfl, by simp⟩
  | cons deviceID rest ih =>
    obtain ⟨hvalid, hseen, hrest⟩ := requestable_cons.mp h
    obtain ⟨result, hresult, hfound⟩ := ih hrest
      ((store.current deviceID).elim owners fun owner => owners.insert deviceID owner)
    refine ⟨result, ?_, fun device => ?_⟩
    · grind [ownersLoop, failIf_of_neg, ok_bind]
    · -- The device of this turn is not in the rest of the list.
      have hentry : ((store.current deviceID).elim owners
          fun owner => owners.insert deviceID owner)[device]? =
          if deviceID = device then (store.current device).or owners[device]?
          else owners[device]? := by
        cases hcurrent : store.current deviceID with
        | none => grind
        | some owner => grind
      rw [hfound, hentry]
      simp only [List.mem_cons]
      by_cases heq : deviceID = device
      · grind
      · simp [heq, Ne.symm heq]

theorem ownersLoop_eq_error (h : ¬ Requestable deviceIDs seen)
    (owners : Std.ExtTreeMap String Ownership) :
    store.ownersLoop deviceIDs seen owners = .error errInvalid := by
  induction deviceIDs generalizing seen owners with
  | nil => exact absurd (requestable_nil seen) h
  | cons deviceID rest ih =>
    rw [ownersLoop]
    by_cases hvalid : ValidIdentifier deviceID 64
    · rw [failIf_of_neg (not_not.mpr hvalid), ok_bind]
      by_cases hseen : deviceID ∈ seen
      · rw [failIf_of_pos hseen, error_bind]
      · grind [failIf_of_neg, ok_bind, requestable_cons]
    · rw [failIf_of_pos hvalid, error_bind]

/-- `Owners` returns the ownership in force of each device of the list. -/
theorem ownersOf_eq_ok (hlength : deviceIDs.length ≤ 1000) (h :
    Requestable deviceIDs []) : ∃ owners, store.ownersOf deviceIDs = .ok owners ∧ ∀ device : String,
    owners[device]? = if device ∈ deviceIDs then store.current device else none := by
  obtain ⟨owners, howners, hfound⟩ := store.ownersLoop_eq_ok h ∅
  refine ⟨owners, ?_, fun device => ?_⟩
  · rw [ownersOf, failIf_of_neg (not_lt.mpr hlength), ok_bind, howners]
  · rw [hfound]
    simp

theorem ownersOf_eq_error (h : ¬ (deviceIDs.length ≤ 1000 ∧ Requestable
    deviceIDs [])) : store.ownersOf deviceIDs = .error errInvalid := by
  rw [ownersOf]
  by_cases hlength : deviceIDs.length ≤ 1000
  · rw [failIf_of_neg (not_lt.mpr hlength), ok_bind]
    exact store.ownersLoop_eq_error (fun hrequest => h ⟨hlength, hrequest⟩) ∅
  · rw [failIf_of_pos (not_le.mp hlength), error_bind]

end Store

/-! ## The PostgreSQL store -/

namespace Database

variable {db : Database}

theorem checkDevices_eq_ok (h : Requestable deviceIDs seen) :
    checkDevices deviceIDs seen = .ok () := by
  induction deviceIDs generalizing seen with
  | nil => rfl
  | cons deviceID rest ih => grind [requestable_cons, checkDevices, failIf_of_neg, ok_bind]

theorem checkDevices_eq_error (h : ¬ Requestable deviceIDs seen) :
    checkDevices deviceIDs seen = .error errInvalid := by
  induction deviceIDs generalizing seen with
  | nil => exact absurd (requestable_nil seen) h
  | cons deviceID rest ih =>
    rw [checkDevices]
    by_cases hvalid : ValidIdentifier deviceID 64
    · rw [failIf_of_neg (not_not.mpr hvalid), ok_bind]
      by_cases hseen : deviceID ∈ seen
      · rw [failIf_of_pos hseen, error_bind]
      · grind [failIf_of_neg, ok_bind, requestable_cons]
    · rw [failIf_of_pos hvalid, error_bind]

/-- A row that passes the checks of the scan. -/
def Scannable (deviceIDs : List String) (row : OwnerRow) : Prop :=
  row.deviceID ∈ deviceIDs ∧ ValidIdentifier row.ownerID 128 ∧ ValidIdentifier row.tenantID 128 ∧
    ValidBindingID row.bindingID ∧ ValidBindingRevision row.bindingRevision

theorem scanOwners_eq_ok (hrows : ∀ row ∈ rows,
    Scannable deviceIDs row) (hnodup : (rows.map OwnerRow.deviceID).Nodup) (owners : Std.ExtTreeMap
    String Ownership) : ∃ result, scanOwners deviceIDs rows owners = .ok result ∧ ∀ device : String,
    result[device]? = ((rows.find? (byKey OwnerRow.deviceID device)).map fun row =>
    row.entry.toOwnership).or owners[device]? := by
  induction rows generalizing owners with
  | nil => exact ⟨owners, rfl, by simp⟩
  | cons row rest ih =>
    obtain ⟨hfirst, hrest⟩ := List.forall_mem_cons.mp hrows
    obtain ⟨hnew, hnodup⟩ := List.nodup_cons.mp hnodup
    obtain ⟨result, hresult, hfound⟩ := ih hrest hnodup
      (owners.insert row.deviceID row.entry.toOwnership)
    refine ⟨result, ?_, fun device => ?_⟩
    · obtain ⟨hmem, howner, htenant, hbinding, hrevision⟩ := hfirst
      rw [scanOwners, failIf_of_neg (by simp [hmem, howner, htenant, hbinding, hrevision]), ok_bind]
      exact hresult
    · rw [hfound, Map.getElem?_insert, List.find?_cons]
      by_cases heq : row.deviceID = device
      · -- No other row has the device of this row.
        have hnone : rest.find? (byKey OwnerRow.deviceID device) = none :=
          find?_key_eq_none.mpr fun other hother hsame =>
            hnew (List.mem_map.mpr ⟨other, hother, hsame.trans heq.symm⟩)
        simp [byKey, heq, hnone]
      · simp [byKey, heq]

theorem scannable_of_mem (hbindings : ∀ row ∈ db.owners.rows,
    ValidBindingID row.bindingID) (hrow : row ∈ db.owners.rows.filter fun row =>
    row.status = .active && decide (row.deviceID ∈ deviceIDs)) : Scannable deviceIDs row := by
  obtain ⟨hmem, hcondition⟩ := List.mem_filter.mp hrow
  obtain ⟨-, htenant, howner, -, hone, hmax⟩ := checked_owner.mp (db.owners.checked row hmem)
  have hpositive : 0 < row.bindingRevision := by grind
  refine ⟨?_, howner, htenant, hbindings row hmem, hpositive, hmax⟩
  simpa using (Bool.and_eq_true_iff.mp hcondition).2

theorem current_eq (deviceID : String) :
    db.current deviceID = ((db.owners.select (byKey OwnerRow.deviceID deviceID)).filter
      (·.status = .active)).map fun row => row.entry.toOwnership := by
  rw [current, selectOwner]
  cases db.owners.select (byKey OwnerRow.deviceID deviceID) with
  | none => rfl
  | some row => grind [OwnerRow.entry]

/-- `Owners` returns the ownership in force of each device of the list. -/
theorem queryOwners_eq_ok (hbindings : ∀ row ∈ db.owners.rows,
    ValidBindingID row.bindingID) (hlength : deviceIDs.length ≤ 1000) (h : Requestable deviceIDs [])
    : ∃ owners, db.queryOwners .reported deviceIDs = .ok owners ∧ ∀ device : String, owners[device]?
    = if device ∈ deviceIDs then db.current device else none := by
  rw [queryOwners, failIf_of_neg (not_lt.mpr hlength), ok_bind]
  by_cases hempty : deviceIDs = []
  · subst hempty
    exact ⟨∅, rfl, by simp⟩
  · have hnodup : ((db.owners.rows.filter fun row =>
        row.status = .active && decide (row.deviceID ∈ deviceIDs)).map OwnerRow.deviceID).Nodup :=
      db.nodup_deviceID.sublist (List.filter_sublist.map OwnerRow.deviceID)
    obtain ⟨owners, howners, hfound⟩ :=
      scanOwners_eq_ok (fun row hrow => scannable_of_mem hbindings hrow) hnodup ∅
    refine ⟨owners, ?_, fun device => ?_⟩
    · rw [if_neg hempty, checkDevices_eq_ok h, ok_bind, query, howners]
    · rw [hfound, find?_filter_key db.nodup_deviceID, current_eq, Table.select]
      cases hrow : db.owners.rows.find? (byKey OwnerRow.deviceID device) with
      | none => simp
      | some row => grind [key_of_find?]

theorem queryOwners_eq_error (h : ¬ (deviceIDs.length ≤ 1000 ∧ Requestable
    deviceIDs [])) : db.queryOwners .reported deviceIDs = .error errInvalid := by
  rw [queryOwners]
  by_cases hlength : deviceIDs.length ≤ 1000
  · grind [Requestable, requestable_nil, failIf_of_neg, ok_bind, checkDevices_eq_error, error_bind]
  · rw [failIf_of_pos (not_le.mp hlength), error_bind]

end Database

end XiaozhiPlatform.DeviceClaim
