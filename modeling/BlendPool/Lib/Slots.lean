/-
# `BlendPool.Lib.Slots` — how often a timed gate can open

A gate that closes for `period` each time it is passed, and opens again at `due`.
`slots period horizon due now` is how often it can still be passed between `now` and
`horizon`.  Waiting does not add to that, passing the gate takes one off, and closing it
early never gives one back: so what each pass costs, taken with the slots left, is a
potential.
-/
import Mathlib.Order.MinMax
import Mathlib.Algebra.Order.Group.Nat

namespace Slots

/-- The passes left between `now` and `horizon`, when the gate is next open at `due`. -/
def slots (period horizon due now : Nat) : Nat :=
  if horizon < max due now then 0 else (horizon - max due now) / period + 1

variable {period horizon due now : Nat}

theorem slots_of_lt (h : horizon < max due now) : slots period horizon due now = 0 := if_pos h

theorem slots_of_le (h : max due now ≤ horizon) :
    slots period horizon due now = (horizon - max due now) / period + 1 := if_neg (not_lt.mpr h)

theorem slots_anti {due' now' : Nat} (h : max due now ≤ max due' now') :
    slots period horizon due' now' ≤ slots period horizon due now := by
  by_cases hlate : horizon < max due' now'
  · rw [slots_of_lt hlate]
    exact Nat.zero_le _
  · have hle : max due' now' ≤ horizon := not_lt.mp hlate
    rw [slots_of_le hle, slots_of_le (h.trans hle)]
    exact Nat.add_le_add_right (Nat.div_le_div_right (Nat.sub_le_sub_left h _)) 1

theorem slots_pass (hperiod : 0 < period) (hdue : due ≤ now) (hnow : now ≤ horizon) :
    slots period horizon (now + period) now + 1 ≤ slots period horizon due now := by
  have hnext : max (now + period) now = now + period := max_eq_left (Nat.le_add_right _ _)
  rw [slots_of_le (by omega : max due now ≤ horizon), max_eq_right hdue]
  refine Nat.add_le_add_right ?_ 1
  by_cases hlate : horizon < now + period
  · rw [slots_of_lt (by omega : horizon < max (now + period) now)]
    exact Nat.zero_le _
  · rw [slots_of_le (by omega : max (now + period) now ≤ horizon), hnext, ← Nat.sub_sub,
      ← Nat.div_eq_sub_div hperiod (by omega : period ≤ horizon - now)]

theorem slots_close (hdue : due ≤ now + period) :
    slots period horizon (now + period) now ≤ slots period horizon due now :=
  slots_anti (by omega)

theorem slots_le (hnow : now ≤ horizon) :
    slots period horizon due now ≤ (horizon - now) / period + 1 := by
  have hanti : slots period horizon due now ≤ slots period horizon 0 now := slots_anti (by omega)
  rw [slots_of_le (by omega : max 0 now ≤ horizon), Nat.zero_max] at hanti
  exact hanti

end Slots
