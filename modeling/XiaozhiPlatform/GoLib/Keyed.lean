import Mathlib

/-!
# Lists of records with distinct keys

A slice of records that is kept sorted by a key and holds each key once behaves like a finite
map: the record of a key is unique, and the slice is determined by its members.

- `find?_key_eq_some`: the search for a key finds the record of that key.
- `eq_of_mem_iff`: two sorted lists with the same members are equal.
- `isChain_insertionSort`: sorting establishes the order that a check on neighbours tests.
-/

namespace GoLib.Keyed

variable {α κ : Type} {f : α → κ} {l : List α}

section Lookup

variable [DecidableEq κ]

/-- With distinct keys the first record of a key is the only one. -/
theorem find?_key_eq_some (hnodup : (l.map f).Nodup) :
    l.find? (fun x => f x = k) = some a ↔ a ∈ l ∧ f a = k := by
  constructor
  · intro h
    exact ⟨List.mem_of_find?_eq_some h, by simpa using List.find?_some h⟩
  · rintro ⟨hmem, rfl⟩
    cases hfind : l.find? (fun x => f x = f a) with
    | none =>
      have hnot := List.find?_eq_none.mp hfind a hmem
      exact absurd (decide_eq_true rfl) hnot
    | some b =>
      have hkey : f b = f a := by simpa using List.find?_some hfind
      have hb := List.mem_of_find?_eq_some hfind
      exact congrArg some (List.inj_on_of_nodup_map hnodup hb hmem hkey)

theorem find?_reverse_key_eq_some (hnodup : (l.map f).Nodup) :
    l.reverse.find? (fun x => f x = k) = some a ↔ a ∈ l ∧ f a = k := by
  have hreverse : (l.reverse.map f).Nodup := by
    rw [List.map_reverse]
    exact List.nodup_reverse.mpr hnodup
  rw [find?_key_eq_some hreverse, List.mem_reverse]

end Lookup

section Sorted

variable [LinearOrder κ]

theorem pairwise_lt (hsorted : l.IsChain fun a b => ¬ f b < f a) (hnodup : (l.map f).Nodup) :
    l.Pairwise fun a b => f a < f b := by
  have : Trans (fun a b : α => f a ≤ f b) (fun a b => f a ≤ f b) fun a b => f a ≤ f b :=
    ⟨le_trans⟩
  have hle : l.Pairwise fun a b => f a ≤ f b :=
    List.isChain_iff_pairwise.mp (hsorted.imp fun _ _ => not_lt.mp)
  have hne : l.Pairwise fun a b => f a ≠ f b := List.pairwise_map.mp hnodup
  exact hle.imp₂ (fun _ _ => lt_of_le_of_ne) hne

/-- A sorted list is determined by its members. -/
theorem eq_of_mem_iff {l₁ l₂ : List α} (h₁ : l₁.Pairwise fun a b => f a < f b)
    (h₂ : l₂.Pairwise fun a b => f a < f b) (hmem : ∀ a, a ∈ l₁ ↔ a ∈ l₂) : l₁ = l₂ := by
  have hnodup : ∀ {l : List α}, (l.Pairwise fun a b => f a < f b) → l.Nodup := fun h =>
    h.imp fun hlt heq => hlt.ne (congrArg f heq)
  refine List.Perm.eq_of_pairwise (fun a b _ _ hab hba => absurd hab hba.asymm) h₁ h₂ ?_
  exact (List.perm_ext_iff_of_nodup (hnodup h₁) (hnodup h₂)).mpr hmem

theorem isChain_insertionSort (f : α → κ) (l : List α) :
    (l.insertionSort fun a b => f a ≤ f b).IsChain fun a b => ¬ f b < f a := by
  have : Std.Total fun a b : α => f a ≤ f b := ⟨fun a b => le_total (f a) (f b)⟩
  have : IsTrans α fun a b : α => f a ≤ f b := ⟨fun _ _ _ => le_trans⟩
  have hsorted := List.pairwise_insertionSort (fun a b : α => f a ≤ f b) l
  exact (hsorted.imp fun h => not_lt.mpr h).isChain

end Sorted

/-- A key that joins two parts by a separator tells them apart, when the first part does not hold
the separator. -/
theorem append_separator_inj (hx : c ∉ x) (hy : c ∉ y) :
    x ++ c :: z = y ++ c :: w ↔ x = y ∧ z = w := by
  induction x generalizing y with
  | nil =>
    cases y with
    | nil => simp
    | cons a y => simpa using fun heq : c = a => absurd (heq ▸ List.mem_cons_self) hy
  | cons a x ih =>
    cases y with
    | nil => simpa using fun heq : a = c => absurd (heq ▸ List.mem_cons_self) hx
    | cons b y =>
      have hrest := ih (fun h => hx (List.mem_cons_of_mem a h))
        fun h => hy (List.mem_cons_of_mem b h)
      simp [hrest, and_assoc]

end GoLib.Keyed
