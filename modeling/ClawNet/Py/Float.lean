import Mathlib.Algebra.Order.Floor

namespace ClawNet.Py

/-- The binary64 values, counted in the least subnormal `2 ^ -1074`: a significand below `2 ^ 53`
times `2 ^ q`, up to `DBL_MAX = (2 ^ 53 - 1) * 2 ^ 971`. -/
def IsDouble (x : Int) : Prop := ∃ m q : Nat, m < 2 ^ 53 ∧ q ≤ 2045 ∧ x.natAbs = m * 2 ^ q

/-- A finite C `double`, in units of `2 ^ -1074`. -/
abbrev Double := {x : Int // IsDouble x}

/-- `-x`. -/
def Double.neg (x : Double) : Double :=
  ⟨-x.1, by obtain ⟨m, q, hm, hq, h⟩ := x.2; exact ⟨m, q, hm, hq, by rw [Int.natAbs_neg, h]⟩⟩

/-- A Python `float`. -/
inductive PyFloat where
  | finite (x : Double)
  | inf (neg : Bool)
  | nan
  deriving DecidableEq

section Rounding

variable {n P c N m q : Nat}

end Rounding

namespace PyFloat

end PyFloat

end ClawNet.Py
