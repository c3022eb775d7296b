import Mathlib

/-!
# Sorted arrays as finite maps

A table that is kept as an array of items in the strict order of their keys. A search stops at the
first key that is not below the one it looks for, an insertion shifts the items after that place, and
a deletion closes the gap. For a sorted array all of them act as on a finite map from keys to items,
which `lookup` is.

- `find_eq_lookup`: the search.
- `lookup_insert`, `lookup_replace`, `lookup_remove`: the updates.
-/

namespace CLib.SortedArray

variable {α κ : Type} [LinearOrder κ] (key : α → κ)

/-- The keys stand in strict order. -/
def Sorted (items : List α) : Prop := items.Pairwise fun left right => key left < key right
deriving Decidable

/-- The item with a key, wherever it stands. -/
def lookup (items : List α) (k : κ) : Option α := items.find? fun item => key item = k

/-- A search that stops at the first greater key. -/
def find (k : κ) : List α → Option α
  | [] => none
  | item :: rest =>
    if key item = k then some item else if k < key item then none else find k rest

/-- The items before the place of a key. -/
def below (items : List α) (k : κ) : List α := items.takeWhile fun item => key item < k

/-- The items from the place of a key on. -/
def atOrAbove (items : List α) (k : κ) : List α := items.dropWhile fun item => key item < k

/-- The array without the first item with a key. -/
def remove (items : List α) (k : κ) : List α := items.eraseP fun item => key item = k

variable {key} {items : List α} {item : α} {k other : κ}

theorem lookup_eq_none_iff : lookup key items k = none ↔ ∀ item ∈ items, key item ≠ k := by
  simp [lookup]

theorem mem_of_lookup_eq_some (h : lookup key items k = some item) : item ∈ items ∧ key item = k :=
  ⟨List.mem_of_find?_eq_some h, by simpa using List.find?_some h⟩

theorem lookup_append (left right : List α) :
    lookup key (left ++ right) k = (lookup key left k).or (lookup key right k) :=
  List.find?_append

theorem lookup_cons (rest : List α) :
    lookup key (item :: rest) k = if key item = k then some item else lookup key rest k := by
  rw [lookup, List.find?_cons]
  by_cases hkey : key item = k
  · simp [hkey]
  · simp [hkey, lookup]

theorem sorted_cons_cons :
    Sorted key (item :: next :: rest) ↔ key item < key next ∧ Sorted key (next :: rest) := by
  constructor
  · grind [Sorted, List.pairwise_cons, List.mem_cons_self]
  · rintro ⟨hlt, h⟩
    refine List.pairwise_cons.mpr ⟨?_, h⟩
    rw [Sorted, List.pairwise_cons] at h
    intro later hlater
    rcases List.mem_cons.mp hlater with rfl | hlater
    · exact hlt
    · exact hlt.trans (h.1 later hlater)

/-! ## Search -/

theorem find_eq_lookup (h : Sorted key items) : find key k items = lookup key items k := by
  induction items with
  | nil => rfl
  | cons first rest ih =>
    rw [Sorted, List.pairwise_cons] at h
    rw [find, lookup_cons]
    split
    · rfl
    · split
      next hgreater =>
        -- All later keys are greater still.
        refine (lookup_eq_none_iff.mpr fun later hlater => ?_).symm
        exact (hgreater.trans (h.1 later hlater)).ne'
      next => exact ih h.2

/-! ## The place of a key -/

theorem below_append_atOrAbove (items : List α) (k : κ) :
    below key items k ++ atOrAbove key items k = items :=
  List.takeWhile_append_dropWhile

theorem lt_of_mem_below (h : item ∈ below key items k) : key item < k := by
  simpa using List.mem_takeWhile_imp h

theorem le_of_mem_atOrAbove (h : Sorted key items) (hmem : item ∈ atOrAbove key items k) :
    k ≤ key item := by
  have hsorted : Sorted key (atOrAbove key items k) := h.sublist (List.dropWhile_sublist _)
  have hhead := List.head?_dropWhile_not (fun item => decide (key item < k)) items
  unfold atOrAbove at hsorted hmem
  cases hplace : items.dropWhile fun item => key item < k with
  | nil =>
    rw [hplace] at hmem
    cases hmem
  | cons first rest =>
    simp only [hplace, List.head?_cons, decide_eq_false_iff_not, not_lt] at hhead
    rw [hplace] at hsorted hmem
    rcases List.mem_cons.mp hmem with rfl | hmem
    · exact hhead
    · exact hhead.trans ((List.pairwise_cons.mp hsorted).1 item hmem).le

theorem ne_of_place (h : Sorted key items)
    (hplace : ∀ first ∈ (atOrAbove key items k).head?, key first ≠ k) : ∀ item ∈ items, key item ≠ k := by
  intro item hitem
  rw [← below_append_atOrAbove items k, List.mem_append] at hitem
  rcases hitem with hbelow | habove
  · exact (lt_of_mem_below hbelow).ne
  · have hsorted : Sorted key (atOrAbove key items k) := h.sublist (List.dropWhile_sublist _)
    have hle : ∀ item ∈ atOrAbove key items k, k ≤ key item := fun item => le_of_mem_atOrAbove h
    cases hrest : atOrAbove key items k with
    | nil =>
      rw [hrest] at habove
      cases habove
    | cons first rest =>
      rw [hrest] at habove hsorted hplace hle
      have hfirst : k < key first :=
        lt_of_le_of_ne (hle first List.mem_cons_self) (hplace first rfl).symm
      rcases List.mem_cons.mp habove with rfl | hlater
      · exact hfirst.ne'
      · exact (hfirst.trans ((List.pairwise_cons.mp hsorted).1 item hlater)).ne'

theorem sorted_around (hleft : Sorted key left) (hright : Sorted key right)
    (hbelow : ∀ before ∈ left, key before < key item)
    (habove : ∀ after ∈ right, key item < key after) :
    Sorted key (left ++ item :: right) := by
  refine List.pairwise_append.mpr ⟨hleft, List.pairwise_cons.mpr ⟨habove, hright⟩, ?_⟩
  intro before hbefore after hafter
  rcases List.mem_cons.mp hafter with rfl | hafter
  · exact hbelow before hbefore
  · grind

/-! ## Updates -/

section Update

variable (h : Sorted key items) (hitem : key item = k)

include h hitem

theorem sorted_insert (hnew : ∀ other ∈ items, key other ≠ k) :
    Sorted key (below key items k ++ item :: atOrAbove key items k) := by
  subst hitem
  refine sorted_around (h.sublist (List.takeWhile_sublist _)) (h.sublist (List.dropWhile_sublist _))
    (fun before => lt_of_mem_below) ?_
  intro after hafter
  refine lt_of_le_of_ne (le_of_mem_atOrAbove h hafter) ?_
  exact (hnew after ((List.dropWhile_sublist _).subset hafter)).symm

theorem sorted_replace (hplace : atOrAbove key items k = old :: rest)
    (hold : key old = k) : Sorted key (below key items k ++ item :: rest) := by
  subst hitem
  have hsorted : Sorted key (old :: rest) := hplace ▸ h.sublist (List.dropWhile_sublist _)
  rw [Sorted, List.pairwise_cons, hold] at hsorted
  exact sorted_around (h.sublist (List.takeWhile_sublist _)) hsorted.2
    (fun before => lt_of_mem_below) hsorted.1

omit h in
theorem lookup_insert (hnew : ∀ other ∈ items, key other ≠ k) :
    lookup key (below key items k ++ item :: atOrAbove key items k) other =
      if other = k then some item else lookup key items other := by
  have hsplit : lookup key (below key items k ++ atOrAbove key items k) other = _ := lookup_append _ _
  rw [below_append_atOrAbove] at hsplit
  rw [lookup_append, lookup_cons, hitem]
  by_cases hother : other = k
  · grind [lookup_eq_none_iff]
  · grind

omit h in
theorem lookup_replace {old : α} {rest : List α} (hplace : atOrAbove key items k = old :: rest)
    (hold : key old = k) : lookup key (below key items k ++ item :: rest) other = if other = k then
    some item else lookup key items other := by
  have hsplit : lookup key (below key items k ++ atOrAbove key items k) other = _ := lookup_append _ _
  rw [below_append_atOrAbove, hplace, lookup_cons, hold] at hsplit
  rw [lookup_append, lookup_cons, hitem]
  by_cases hother : other = k
  · have hnone : lookup key (below key items k) k = none :=
      lookup_eq_none_iff.mpr fun before hbefore => (lt_of_mem_below hbefore).ne
    rw [hother, if_pos rfl, if_pos rfl, hnone, Option.none_or]
  · grind

end Update

theorem sorted_remove (h : Sorted key items) (k : κ) : Sorted key (remove key items k) :=
  h.sublist List.eraseP_sublist

theorem lookup_remove (h : Sorted key items) :
    lookup key (remove key items k) other = if other = k then none else lookup key items other := by
  induction items with
  | nil => simp [remove, lookup]
  | cons first rest ih =>
    rw [Sorted, List.pairwise_cons] at h
    by_cases hfirst : key first = k
    · -- The item that is removed is the only one with its key.
      have hremove : remove key (first :: rest) k = rest := by simp [remove, hfirst]
      rw [hremove, lookup_cons, hfirst]
      by_cases hother : other = k
      · rw [if_pos hother, hother, lookup_eq_none_iff]
        exact fun later hlater => hfirst ▸ (h.1 later hlater).ne'
      · grind
    · have hremove : remove key (first :: rest) k = first :: remove key rest k := by
        simp [remove, hfirst]
      rw [hremove, lookup_cons, lookup_cons, ih h.2]
      by_cases hother : other = k
      · grind
      · rw [if_neg hother, if_neg hother]

end CLib.SortedArray
