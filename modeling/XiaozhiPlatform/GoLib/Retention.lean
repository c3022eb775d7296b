import XiaozhiPlatform.GoLib.Map
import XiaozhiPlatform.GoLib.Run

/-!
# Keys that are remembered until they expire

An object that accepts a key once remembers it together with an instant of expiry. A call drops the
keys that have expired by the instant that the call has read from the clock, and it accepts only a
key that is not remembered.

A call may read the clock and then wait for its turn, so the instants need not be in the order in
which the calls are served. What a call relies on is that no call served up to its own turn has read
a later instant than the one at its turn.

- `getElem?_prune`, `getElem?_insert_prune`: what a map remembers after it has dropped the expired
  keys, and after it has stored a key.
- `Retains.kept_run`: a key stays remembered as long as no call has read its expiry.
- `Retains.expired`: of two calls that accept one key, the later one has its turn when the key of
  the earlier one has expired.
-/

namespace GoLib

variable {σ ι ο κ : Type}

/-! ## Maps from keys to their expiry -/

section Maps

variable [Ord κ] [Std.TransOrd κ] [Std.LawfulEqOrd κ] [DecidableEq κ]
  {used : Std.ExtTreeMap κ ℤ} {key k : κ} {now expiry e : ℤ}

/-- The keys that have not expired. -/
def prune (now : ℤ) (used : Std.ExtTreeMap κ ℤ) : Std.ExtTreeMap κ ℤ :=
  used.filter fun _ expires => now < expires

omit [DecidableEq κ] in
@[simp]
theorem prune_empty : prune now (∅ : Std.ExtTreeMap κ ℤ) = ∅ := by
  ext k e
  simp [prune]

omit [DecidableEq κ] in
theorem getElem?_prune (h : used[k]? = some e) (hlive : now < e) : (prune now used)[k]? = some e := by
  grind [prune]

omit [DecidableEq κ] in
theorem notMem_prune : key ∉ prune now used ↔ ∀ e, used[key]? = some e → e ≤ now := by
  rw [← Map.getElem?_eq_none, prune, Map.getElem?_filter, Option.filter_eq_none_iff]
  simp

/-- A key that is stored next to those that have not expired replaces none of them. -/
theorem getElem?_insert_prune (habsent : key ∉ prune now used) (h : used[k]? = some e)
    (hlive : now < e) : ((prune now used).insert key expiry)[k]? = some e := by
  grind [Map.getElem?_insert, getElem?_prune, notMem_prune]

end Maps

/-! ## Objects that remember keys -/

/-- `kept` is the expiry that the object remembers for a key. Calls drop only keys that have
expired by the `instant` they have read, and a call that accepts a key finds it absent or expired
and leaves it behind with the expiry `expires`. -/
structure Retains (serve : σ → ι → σ × ο) (kept : σ → κ → Option ℤ)
    (instant expires : Served σ ι → ℤ) (accepts : Served σ ι → κ → Prop) : Prop where
  keep : ∀ x key expiry, kept x.before key = some expiry → instant x < expiry →
    kept (x.after serve) key = some expiry
  fresh : ∀ x key expiry, accepts x key → kept x.before key = some expiry → expiry ≤ instant x
  store : ∀ x key, accepts x key → kept (x.after serve) key = some (expires x)

namespace Retains

variable {serve : σ → ι → σ × ο} {kept : σ → κ → Option ℤ} {instant expires turn : Served σ ι → ℤ}
  {accepts : Served σ ι → κ → Prop} {init state : σ} {history : List (Served σ ι)} {key : κ}
  {expiry : ℤ}

theorem kept_run (h : Retains serve kept instant expires accepts)
    (hrun : Run serve init history state) (hkept : kept init key = some expiry)
    (hearly : ∀ x ∈ history, instant x < expiry) : kept state key = some expiry := by
  induction hrun with
  | nil => exact hkept
  | @step history state call run ih =>
    have hbefore := ih fun x hx => hearly x (List.mem_cons_of_mem _ hx)
    exact h.keep ⟨state, call⟩ key expiry hbefore (hearly ⟨state, call⟩ List.mem_cons_self)

/-- A call that accepts a key after another one is served at or after the expiry of the other. -/
theorem expired (h : Retains serve kept instant expires accepts)
    (hrun : Run serve init history state) (hread : ∀ x ∈ history, instant x ≤ turn x)
    (hclock : history.Pairwise fun y x => turn x ≤ turn y) :
    history.Pairwise fun y x => ∀ key, accepts y key → accepts x key → expires x ≤ turn y := by
  induction hrun with
  | nil => exact .nil
  | @step history state call run ih =>
    obtain ⟨hlast, hearlier⟩ := List.pairwise_cons.mp hclock
    refine .cons (fun x hx key hy haccepts => ?_)
      (ih (fun x hx => hread x (List.mem_cons_of_mem _ hx)) hearlier)
    by_contra hlate
    have hlate : turn ⟨state, call⟩ < expires x := not_le.mp hlate
    -- No call between the two has read the expiry, so the key is still remembered.
    obtain ⟨later, earlier, rfl⟩ := List.append_of_mem hx
    have hbetween : kept state key = some (expires x) := by
      refine h.kept_run run.split.2 (h.store x key haccepts) fun z hz => ?_
      have hz : z ∈ later ++ x :: earlier := List.mem_append_left _ hz
      exact ((hread z (List.mem_cons_of_mem _ hz)).trans (hlast z hz)).trans_lt hlate
    have hexpired := h.fresh ⟨state, call⟩ key _ hy hbetween
    exact absurd (hexpired.trans (hread ⟨state, call⟩ List.mem_cons_self)) (not_le.mpr hlate)

end Retains

end GoLib
