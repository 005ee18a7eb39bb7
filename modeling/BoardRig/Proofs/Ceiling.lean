/-
# `BoardRig.Proofs.Ceiling` — division rounded up, one step at a time

Cutting a list into pieces and waiting in equal pauses both take away one
step after another until nothing is left.  How often they do that is the
length divided by the step and rounded up, `n ⌈/⌉ step`: the least count of
steps that covers `n`.
-/
import Mathlib.Algebra.Order.Floor.Div

namespace BoardRig

variable {n step : Nat}

/-- Taking one step from what is left takes one from the count. -/
theorem ceilDiv_eq_sub_add_one (hs : 0 < step) (hn : 0 < n) :
    n ⌈/⌉ step = (n - step) ⌈/⌉ step + 1 := by
  refine eq_of_forall_ge_iff fun c => ?_
  rw [ceilDiv_le_iff_le_mul hs]
  cases c with
  | zero => omega
  | succ c =>
      rw [Nat.add_le_add_iff_right, ceilDiv_le_iff_le_mul hs, Nat.mul_succ]
      omega

theorem le_ceilDiv_mul (hs : 0 < step) : n ≤ n ⌈/⌉ step * step := by
  rw [Nat.mul_comm]
  exact (ceilDiv_le_iff_le_mul hs).mp le_rfl

theorem ceilDiv_mul_lt (hs : 0 < step) : n ⌈/⌉ step * step < n + step := by
  rw [Nat.ceilDiv_eq_add_pred_div]
  have := Nat.div_mul_le_self (n + step - 1) step
  omega

end BoardRig
