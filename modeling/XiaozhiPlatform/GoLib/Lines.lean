import Mathlib

/-!
# Lines

A text that is built by joining lines can be read in one way only when the number of lines is known
and the lines of one reading have no separator: a separator inside a line of another reading would
leave it with more lines.

- `intercalate_injective`: joined lines determine the lines.
- `flatMap_separator_injective`: so do lines that end with a separator each.
- `intercalate_head`: they determine the first line, whatever their number.
-/

namespace GoLib

variable {α : Type} {separator : α} {lines others : List (List α)}

theorem intercalate_cons (line : List α) (h : lines ≠ []) :
    [separator].intercalate (line :: lines) = line ++ separator :: [separator].intercalate lines := by
  cases lines with
  | nil => exact absurd rfl h
  | cons next rest => simp [List.intercalate]

/-- Lines that end with a separator each are lines that are joined with an empty one. -/
theorem flatMap_separator (separator : α) (lines : List (List α)) :
    lines.flatMap (· ++ [separator]) = [separator].intercalate (lines ++ [[]]) := by
  induction lines with
  | nil => rfl
  | cons line lines ih =>
    rw [List.flatMap_cons, ih, List.cons_append, intercalate_cons line (by simp), List.append_assoc]
    rfl

variable [DecidableEq α]

variable (separator) in
theorem count_intercalate (h : lines ≠ []) : ([separator].intercalate lines).count separator + 1 =
    lines.length + (lines.map (List.count separator)).sum := by
  induction lines with
  | nil => exact absurd rfl h
  | cons line lines ih =>
    by_cases hrest : lines = []
    · subst hrest
      simp [List.intercalate]
      omega
    · rw [intercalate_cons line hrest, List.count_append, List.count_cons_self, List.map_cons,
        List.sum_cons, List.length_cons]
      have hlines := ih hrest
      omega

/-- Lines without separators are determined by the joined text and their number. -/
theorem intercalate_injective (hlength : lines.length = others.length)
    (hlines : ∀ line ∈ lines, separator ∉ line)
    (h : [separator].intercalate lines = [separator].intercalate others) : lines = others := by
  by_cases hnil : lines = []
  · subst hnil
    exact (List.eq_nil_of_length_eq_zero hlength.symm).symm
  · have hothers : others ≠ [] := by
      intro heq
      rw [heq, List.length_nil] at hlength
      exact hnil (List.eq_nil_of_length_eq_zero hlength)
    -- The other lines have no room for a separator either.
    have hnone : (lines.map (List.count separator)).sum = 0 := by
      refine List.sum_eq_zero fun n hn => ?_
      obtain ⟨line, hline, rfl⟩ := List.mem_map.mp hn
      exact List.count_eq_zero.mpr (hlines line hline)
    have hcount := count_intercalate separator hnil
    have hcount' := count_intercalate separator hothers
    rw [h] at hcount
    have hsum : (others.map (List.count separator)).sum = 0 := by omega
    have hfree : ∀ line ∈ others, separator ∉ line := by
      intro line hline
      have hle : line.count separator ≤ (others.map (List.count separator)).sum :=
        List.single_le_sum (fun n _ => Nat.zero_le n) _ (List.mem_map_of_mem hline)
      exact List.count_eq_zero.mp (by omega)
    rw [← List.splitOn_intercalate separator hlines hnil, h,
      List.splitOn_intercalate separator hfree hothers]

/-- Lines without separators are determined by the text in which each ends with one. -/
theorem flatMap_separator_injective (hlength : lines.length = others.length)
    (hlines : ∀ line ∈ lines, separator ∉ line)
    (h : lines.flatMap (· ++ [separator]) = others.flatMap (· ++ [separator])) : lines = others := by
  rw [flatMap_separator, flatMap_separator] at h
  refine List.append_cancel_right (intercalate_injective ?_ (fun line hline => ?_) h)
  · simp [hlength]
  · rcases List.mem_append.mp hline with hline | hline
    · exact hlines line hline
    · rw [List.mem_singleton.mp hline]
      exact List.not_mem_nil

/-- A first line without separators is determined by the joined text. -/
theorem intercalate_head (hfirst : separator ∉ first) (hsecond : separator ∉
    second) (hlines : lines ≠ []) (hothers : others ≠ []) (h : [separator].intercalate (first ::
    lines) = [separator].intercalate (second :: others)) : first = second := by
  rw [intercalate_cons first hlines, intercalate_cons second hothers] at h
  have htake : ∀ {line rest : List α}, separator ∉ line →
      (line ++ separator :: rest).takeWhile (· ≠ separator) = line := by
    intro line rest hline
    rw [List.takeWhile_append_of_pos fun x hx => by
      simpa using fun heq : x = separator => hline (heq ▸ hx)]
    simp
  rw [← htake hfirst, h, htake hsecond]

end GoLib
