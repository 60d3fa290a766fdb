import Mathlib.Algebra.Order.Ring.Defs
import Mathlib.Order.MinMax
import Mathlib.Tactic.Common

/-!
# Response curves

What a deflection is turned into: a dead zone, a gain and a limit, one after the other.
Each of them keeps the order and the rest position, and so does any chain of them.
-/

namespace Machine

/-- A response curve: it keeps the order, and rest is answered by rest. -/
structure IsResponse {α : Type*} [Preorder α] [Zero α] (f : α → α) : Prop where
  mono : Monotone f
  zero : f 0 = 0

namespace IsResponse

variable {α : Type*} [Preorder α] [Zero α] {f g : α → α}

/-- No deflection is answered by one to the other side. -/
theorem nonneg (hf : IsResponse f) {x : α} (hx : 0 ≤ x) : 0 ≤ f x :=
  hf.zero ▸ hf.mono hx

theorem nonpos (hf : IsResponse f) {x : α} (hx : x ≤ 0) : f x ≤ 0 := by
  have hle := hf.mono hx
  rwa [hf.zero] at hle

theorem comp (hg : IsResponse g) (hf : IsResponse f) : IsResponse fun x => g (f x) where
  mono := hg.mono.comp hf.mono
  zero := by rw [hf.zero, hg.zero]

end IsResponse

/-! ## Limits -/

section Limit

variable {α : Type*} [LinearOrder α]

/-- The nearest value that is neither below `low` nor above `high`. -/
def limit (low high x : α) : α :=
  max low (min x high)

theorem le_limit (low high x : α) : low ≤ limit low high x :=
  le_max_left ..

theorem limit_le {low high : α} (hle : low ≤ high) (x : α) : limit low high x ≤ high :=
  max_le hle (min_le_right ..)

theorem isResponse_limit [Zero α] {low high : α} (hlow : low ≤ 0) (hhigh : 0 ≤ high) :
    IsResponse (limit low high) where
  mono := fun _ _ hxy => max_le_max_left low (min_le_min_right high hxy)
  zero := by rw [limit, min_eq_left hhigh, max_eq_right hlow]

end Limit

/-! ## Dead zones and gains -/

section Ring

variable {α : Type*} [Ring α] [LinearOrder α]

/-- Rest for whatever is closer than `width` to it. -/
def deadZone (width x : α) : α :=
  if -width < x ∧ x < width then 0 else x

variable [IsStrictOrderedRing α]

theorem isResponse_deadZone (width : α) : IsResponse (deadZone width) where
  mono := by
    intro x y hxy
    unfold deadZone
    -- the values inside lie between those on the two sides
    by_cases hx : -width < x ∧ x < width <;> by_cases hy : -width < y ∧ y < width
    · rw [if_pos hx, if_pos hy]
    · have hwidth : 0 < width := neg_lt_self_iff.mp (hx.1.trans hx.2)
      rw [if_pos hx, if_neg hy]
      exact hwidth.le.trans (not_lt.mp fun hlt => hy ⟨hx.1.trans_le hxy, hlt⟩)
    · have hwidth : 0 < width := neg_lt_self_iff.mp (hy.1.trans hy.2)
      rw [if_neg hx, if_pos hy]
      exact (not_lt.mp fun hlt => hx ⟨hlt, hxy.trans_lt hy.2⟩).trans (neg_nonpos.mpr hwidth.le)
    · rwa [if_neg hx, if_neg hy]
  zero := ite_self 0

theorem isResponse_gain {gain : α} (hgain : 0 ≤ gain) : IsResponse fun x => x * gain where
  mono := fun _ _ hxy => mul_le_mul_of_nonneg_right hxy hgain
  zero := zero_mul gain

end Ring

end Machine
