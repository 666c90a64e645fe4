import Mathlib.Algebra.Order.Monoid.Unbundled.Basic
import Mathlib.Tactic.Ring

/-!
# Duty cycles

What is on for the first `on` ticks of every `cycle` ticks: `onTicks cycle on e` of the first `e` ticks.

* `onTicks_le`: within a cycle, or at its end;
* `onTicks_cycle`: after whole cycles.
-/

namespace GreeIntense.Lib.Duty

variable {cycle on e r : ℕ}

/-- The ticks that are on among the first `e`. -/
def onTicks (cycle on e : ℕ) : ℕ := e / cycle * on + min (e % cycle) on

theorem onTicks_add (j : ℕ) (hr : r < cycle) : onTicks cycle on (cycle * j + r) = j * on + min r on := by
  have hpos : 0 < cycle := (Nat.zero_le r).trans_lt hr
  rw [onTicks, Nat.mul_add_div hpos, Nat.div_eq_of_lt hr, Nat.mul_add_mod, Nat.mod_eq_of_lt hr, Nat.add_zero]

theorem onTicks_le (j : ℕ) (hpos : 0 < cycle) (hon : on ≤ cycle) (hr : r ≤ cycle) :
    onTicks cycle on (cycle * j + r) = j * on + min r on := by
  rcases Nat.lt_or_eq_of_le hr with hlt | rfl
  · exact onTicks_add j hlt
  · have hnext : r * j + r = r * (j + 1) + 0 := by ring
    rw [hnext, onTicks_add (j + 1) hpos, Nat.zero_min, Nat.min_eq_right hon]
    ring

theorem onTicks_cycle (j : ℕ) (hpos : 0 < cycle) : onTicks cycle on (cycle * j) = j * on := by
  have h : onTicks cycle on (cycle * j + 0) = j * on + min 0 on := onTicks_add j hpos
  simpa using h

end GreeIntense.Lib.Duty
