import Mathlib

/-!
# Fixed rate windows

A limiter with fixed windows counts the events from the start of a window on, lets a number of them
pass and starts the next window no earlier than the length of a window later. A span of that length
meets at most two windows, so it holds at most twice the number.
-/

namespace GoLib

variable {α : Type} {events : List α} {time window : α → ℤ} {length limit start : ℤ} {n : ℕ}

theorem window_eq_or_eq {s l t₁ t₂ t₃ w₁ w₂ w₃ : ℤ} (hw₁ : w₁ ≤ t₁ ∧ t₁ < w₁ + l)
    (hw₂ : w₂ ≤ t₂ ∧ t₂ < w₂ + l) (hw₃ : w₃ ≤ t₃ ∧ t₃ < w₃ + l) (ht₁ : s ≤ t₁ ∧ t₁ < s + l)
    (ht₂ : s ≤ t₂ ∧ t₂ < s + l) (ht₃ : s ≤ t₃ ∧ t₃ < s + l)
    (h₁₂ : w₁ = w₂ ∨ w₁ + l ≤ w₂ ∨ w₂ + l ≤ w₁) (h₁₃ : w₁ = w₃ ∨ w₁ + l ≤ w₃ ∨ w₃ + l ≤ w₁)
    (h₂₃ : w₂ = w₃ ∨ w₂ + l ≤ w₃ ∨ w₃ + l ≤ w₂) (hne : w₁ ≠ w₂) : w₃ = w₁ ∨ w₃ = w₂ := by
  omega

variable (start) in
/-- Windows that are the same or apart by their length, with at most `n` events each, leave at most
`2 * n` events in a span of that length. -/
theorem countP_span_le (hinside : ∀ x ∈ events, window x ≤ time x ∧ time x < window x + length)
    (hapart : events.Pairwise fun y x => window x = window y ∨ window x + length ≤ window y) (hcount
    : ∀ w, events.countP (fun x => window x = w) ≤ n) : events.countP (fun x => start ≤ time x ∧
    time x < start + length) ≤ 2 * n := by
  have hpair : ∀ x ∈ events, ∀ y ∈ events,
      window x = window y ∨ window x + length ≤ window y ∨ window y + length ≤ window x := by
    have hforward : events.Pairwise fun x y =>
        window x = window y ∨ window x + length ≤ window y ∨ window y + length ≤ window x :=
      hapart.imp fun h => by omega
    have hbackward : events.Pairwise (flip fun x y =>
        window x = window y ∨ window x + length ≤ window y ∨ window y + length ≤ window x) :=
      hapart.imp fun h => by
        simp only [flip]
        omega
    exact hforward.forall_of_forall_of_flip (fun _ _ => .inl rfl) hbackward
  by_cases hsome : ∃ a ∈ events, start ≤ time a ∧ time a < start + length
  · obtain ⟨a, ha, hat⟩ := hsome
    by_cases hother : ∃ b ∈ events, (start ≤ time b ∧ time b < start + length) ∧ window a ≠ window b
    · obtain ⟨b, hb, hbt, hne⟩ := hother
      -- Every event of the span is in the window of one of the two.
      have htwo : ∀ x ∈ events, start ≤ time x ∧ time x < start + length →
          window x = window a ∨ window x = window b := fun x hx hxt =>
        window_eq_or_eq (hinside a ha) (hinside b hb) (hinside x hx) hat hbt hxt (hpair a ha b hb)
          (hpair a ha x hx) (hpair b hb x hx) hne
      have hle : events.countP (fun x => start ≤ time x ∧ time x < start + length) ≤
          events.countP (fun x => window x = window a) +
            events.countP (fun x => window x = window b) := by
        clear hcount hpair hinside hapart ha hb
        induction events with
        | nil => simp
        | cons x events ih =>
          have hrest := ih fun y hy => htwo y (List.mem_cons_of_mem x hy)
          have hx := htwo x List.mem_cons_self
          simp only [List.countP_cons, decide_eq_true_eq]
          split <;> split <;> split <;> omega
      have ha' := hcount (window a)
      have hb' := hcount (window b)
      omega
    · have hle : events.countP (fun x => start ≤ time x ∧ time x < start + length) ≤
          events.countP (fun x => window x = window a) := by
        refine List.countP_mono_left fun x hx hxt => ?_
        by_contra hne
        exact hother ⟨x, hx, of_decide_eq_true hxt, fun h => hne (decide_eq_true h.symm)⟩
      have ha' := hcount (window a)
      omega
  · have hnone : events.countP (fun x => start ≤ time x ∧ time x < start + length) = 0 := by
      refine List.countP_eq_zero.mpr fun x hx hxt => ?_
      exact hsome ⟨x, hx, of_decide_eq_true hxt⟩
    omega

end GoLib
