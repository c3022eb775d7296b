import Mathlib

/-!
# Maps with lawful keys

Go maps and directories are finite maps `Std.ExtTreeMap`. The library states what a map holds
after an update in terms of the comparison of keys; for keys whose comparison is lawful the rules
here say the same in terms of equality.

A `range` loop over a map is a fold over its entries. Go leaves their order open, which is sound
for a loop whose turn for one key has its effect on that key alone: `foldl_entry` reads the outcome
for a key off the turn of that key. Where the order could matter, a loop takes it as an `Iteration`.

The entries of a map are added up by `total`, which an insertion or a deletion changes by the value
of its entry.
-/

namespace GoLib.Map

variable {α β : Type} [Ord α] [Std.TransOrd α] [Std.LawfulEqOrd α] [DecidableEq α]
  {m : Std.ExtTreeMap α β} {k a : α} {v : β}

theorem getElem?_insert : (m.insert k v)[a]? = if k = a then some v else m[a]? := by grind

theorem getElem?_erase : (m.erase k)[a]? = if k = a then none else m[a]? := by grind

omit [DecidableEq α] in
theorem mem_insert : a ∈ m.insert k v ↔ k = a ∨ a ∈ m := by grind

omit [DecidableEq α] in
theorem mem_erase : a ∈ m.erase k ↔ k ≠ a ∧ a ∈ m := by grind

omit [Std.LawfulEqOrd α] [DecidableEq α] in
theorem getElem?_eq_none : m[a]? = none ↔ a ∉ m := by grind

omit [DecidableEq α] in
theorem getElem?_filter {keep : α → β → Bool} : (m.filter keep)[a]? = m[a]?.filter (keep a) :=
  Std.ExtTreeMap.getElem?_filter'

/-! ## Entries -/

omit [DecidableEq α] in
theorem pairwise_toList : m.toList.Pairwise fun x y => x.1 ≠ y.1 :=
  Std.ExtTreeMap.distinct_keys_toList.imp fun hxy => by rwa [Std.compare_eq_iff_eq] at hxy

omit [DecidableEq α] in
theorem nodup_toList : m.toList.Nodup :=
  pairwise_toList.imp fun hne heq => hne (congrArg Prod.fst heq)

theorem toList_erase_perm (hpresent : m[k]? = some v) :
    m.toList.Perm ((k, v) :: (m.erase k).toList) := by
  have hgone : (k, v) ∉ (m.erase k).toList := fun hmem => by
    rw [Std.ExtTreeMap.mem_toList_iff_getElem?_eq_some, getElem?_erase, if_pos rfl] at hmem
    cases hmem
  refine (List.perm_ext_iff_of_nodup nodup_toList (List.nodup_cons.mpr ⟨hgone, nodup_toList⟩)).mpr ?_
  rintro ⟨b, w⟩
  rw [Std.ExtTreeMap.mem_toList_iff_getElem?_eq_some, List.mem_cons,
    Std.ExtTreeMap.mem_toList_iff_getElem?_eq_some, getElem?_erase, Prod.mk.injEq]
  split
  next hkb =>
    subst hkb
    simp [hpresent, eq_comm]
  next hkb => simp [Ne.symm hkb]

/-- The sum of a value over the entries of a map. -/
def total (f : β → ℤ) (m : Std.ExtTreeMap α β) : ℤ := (m.toList.map fun entry => f entry.2).sum

variable {f : β → ℤ}

theorem total_erase (hpresent : m[k]? = some v) : total f (m.erase k) = total f m - f v := by
  have hsum : total f m = f v + total f (m.erase k) := by
    rw [total, ((toList_erase_perm hpresent).map _).sum_eq]
    rfl
  omega

theorem total_insert (habsent : m[k]? = none) : total f (m.insert k v) = f v + total f m := by
  have herase : (m.insert k v).erase k = m := Std.ExtTreeMap.ext_getElem? fun b => by grind
  have hpresent : (m.insert k v)[k]? = some v := by grind
  have hsum := total_erase (f := f) hpresent
  rw [herase] at hsum
  omega

omit [DecidableEq α] [Std.LawfulEqOrd α] in
@[simp]
theorem total_empty : total f (∅ : Std.ExtTreeMap α β) = 0 := by
  have hnil : (∅ : Std.ExtTreeMap α β).toList = [] :=
    List.eq_nil_of_length_eq_zero (by rw [Std.ExtTreeMap.length_toList, Std.ExtTreeMap.size_empty])
  rw [total, hnil]
  rfl

omit [DecidableEq α] in
theorem total_nonneg (hf : ∀ (a : α) (v : β), m[a]? = some v → 0 ≤ f v) : 0 ≤ total f m := by
  refine List.sum_nonneg fun x hx => ?_
  obtain ⟨⟨a, v⟩, hentry, rfl⟩ := List.mem_map.mp hx
  exact hf a v (Std.ExtTreeMap.mem_toList_iff_getElem?_eq_some.mp hentry)

theorem le_total (hf : ∀ (a : α) (v : β), m[a]? = some v → 0 ≤ f v) (hpresent : m[k]? = some v) :
    f v ≤ total f m := by
  have hrest : 0 ≤ total f (m.erase k) := total_nonneg fun a w hw => by
    rw [getElem?_erase] at hw
    split at hw
    · cases hw
    · exact hf a w hw
  rw [total_erase hpresent] at hrest
  omega

/-- The order in which a loop visits what it ranges over. -/
structure Iteration (γ : Type) where
  order : List γ → List γ
  perm : ∀ l, (order l).Perm l

/-- The order of the keys. -/
def Iteration.byKey {γ : Type} : Iteration γ := ⟨id, fun _ => .refl _⟩

section Loops

variable {σ γ : Type} {turn : σ → α → β → σ} {observe : σ → γ} {P : γ → Prop} {effect : β → γ → γ}

omit [Ord α] [Std.TransOrd α] [Std.LawfulEqOrd α] in
theorem foldl_pairs (hother : ∀ s a v, a ≠ k → P (observe s) → observe (turn s a v) = observe s)
    (hself : ∀ s v, P (observe s) → observe (turn s k v) = effect v (observe s)) (hP : ∀ v c, P c →
    P (effect v c)) (entries : List (α × β)) (hkeys : entries.Pairwise fun x y => x.1 ≠ y.1) (s : σ)
    (hs : P (observe s)) : observe (entries.foldl (fun s x => turn s x.1 x.2) s) = (entries.find?
    fun x => x.1 = k).elim (observe s) fun x => effect x.2 (observe s) := by
  induction entries generalizing s with
  | nil => rfl
  | cons x rest ih =>
    obtain ⟨hhead, hrest⟩ := List.pairwise_cons.mp hkeys
    rw [List.foldl_cons]
    by_cases hk : x.1 = k
    · -- The turn of `k`: the key does not come again in the rest.
      have hself' : observe (turn s x.1 x.2) = effect x.2 (observe s) := by
        rw [hk]
        exact hself s x.2 hs
      have hnone : (rest.find? fun y => y.1 = k) = none := by grind
      rw [ih hrest _ (by rw [hself']; exact hP _ _ hs), hnone,
        List.find?_cons_of_pos (by simpa using hk)]
      exact hself'
    · grind

/-- A loop over the entries of a map leaves `observe` as the turn of the key `k` leaves it, when no
other turn touches it. `P` is what the other turns may rely on. -/
theorem foldl_entry (turn : σ → α → β → σ) (observe : σ → γ) (P : γ → Prop) (effect : β → γ → γ)
    (hother : ∀ s a v, a ≠ k → P (observe s) → observe (turn s a v) = observe s) (hself : ∀ s v, P
    (observe s) → observe (turn s k v) = effect v (observe s))
    (hP : ∀ v c, P c → P (effect v c)) (hs : P (observe s)) :
    observe (m.foldl turn s) = m[k]?.elim (observe s) fun v => effect v
    (observe s) := by
  rw [Std.ExtTreeMap.foldl_eq_foldl_toList, foldl_pairs hother hself hP _ pairwise_toList s hs]
  cases hfind : m.toList.find? fun x => x.1 = k with
  | none =>
    have hnone : m[k]? = none := Option.eq_none_iff_forall_not_mem.mpr fun v hv => by
      have hmem := Std.ExtTreeMap.mem_toList_iff_getElem?_eq_some.mpr hv
      simpa using List.find?_eq_none.mp hfind _ hmem
    rw [hnone]
    rfl
  | some x => grind

omit [Std.LawfulEqOrd α] [DecidableEq α] in
theorem foldl_same (turn : σ → α → β → σ) (observe : σ → γ) (P : γ → Prop)
    (hturn : ∀ s a v, P (observe s) → observe (turn s a v) = observe s) {s : σ}
    (hs : P (observe s)) : observe (m.foldl turn s) = observe s := by
  rw [Std.ExtTreeMap.foldl_eq_foldl_toList]
  induction m.toList generalizing s with
  | nil => rfl
  | cons x rest ih => grind

end Loops

end GoLib.Map
