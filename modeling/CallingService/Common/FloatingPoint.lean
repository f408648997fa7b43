import CallingService.Common.Basics
import Mathlib.Algebra.Order.Field.Rat
import Mathlib.Data.Nat.Sqrt
import Mathlib.Algebra.Order.BigOperators.Group.List
import Mathlib.Tactic.NormNum

/-!
# Floating point

The operations of `f64` that the source uses.  Nothing is assumed of them here:
the values may be rounded, infinite or not a number.  What a result needs to
know about them is stated where it is needed.
-/

namespace CallingService

class FloatingPoint (F : Type) extends Add F, Sub F, Mul F, Div F, Neg F,
    LT F, LE F, BEq F, OfScientific F where
  /-- `as f64` of an unsigned integer. -/
  asF64 : Nat → F
  /-- `as u64`, which rounds towards zero and saturates. -/
  asU64 : F → Nat
  asSecsF64 : Duration → F
  abs : F → F
  sqrt : F → F
  powf : F → F → F
  max : F → F → F
  min : F → F → F
  decidableLT : DecidableLT F
  decidableLE : DecidableLE F

namespace FloatingPoint

attribute [reducible, instance] decidableLT decidableLE

variable {F : Type} [FloatingPoint F]

def clamp (value lower upper : F) : F :=
  let value := if value < lower then lower else value
  if upper < value then upper else value

def square (value : F) : F := value * value

/-- The sum of an iterator, from its first item on. -/
def sum (values : List F) : F := values.foldl (· + ·) 0.0

def exponentialMovingAverage (average alpha update : F) : F :=
  update * alpha + average * (1.0 - alpha)

/-- How durations become seconds. -/
structure MeasuresTime (F : Type) [FloatingPoint F] : Prop where
  mono : ∀ {shorter longer : Duration}, shorter ≤ longer →
    (asSecsF64 shorter : F) ≤ asSecsF64 longer
  negative : ∀ back forth : Duration,
    (-asSecsF64 back : F) ≤ asSecsF64 forth
  fiveMillis : (5.0 / 1000.0 : F) = asSecsF64 (fromMillis 5)

/-- Exact rationals.  Powers have whole exponents, and square roots are those
of squares. -/
@[reducible] def exactRationals : FloatingPoint ℚ where
  asF64 number := number
  asU64 value := Min.min value.floor.toNat (2 ^ 64 - 1)
  asSecsF64 duration := (duration : ℚ) / 1000000000
  abs value := |value|
  sqrt value := (value.num.toNat.sqrt : ℚ) / value.den.sqrt
  powf value exponent := value ^ exponent.floor
  max := Max.max
  min := Min.min
  decidableLT := inferInstance
  decidableLE := inferInstance

theorem seconds_nonneg (duration : Nat) :
    (0 : ℚ) ≤ (duration : ℚ) / 1000000000 :=
  div_nonneg (Nat.cast_nonneg duration) (by norm_num)

theorem measuresTime_exactRationals : @MeasuresTime ℚ exactRationals := by
  have unit : (0 : ℚ) < 1000000000 := by norm_num
  refine @MeasuresTime.mk ℚ exactRationals ?mono ?negative ?five
  case mono =>
    intro shorter longer le
    exact div_le_div_of_nonneg_right (Nat.cast_le.mpr le) unit.le
  case negative =>
    intro back forth
    exact (neg_nonpos.mpr (seconds_nonneg back)).trans (seconds_nonneg forth)
  case five =>
    change (5.0 / 1000.0 : ℚ) = ((5 * 1000000 : Nat) : ℚ) / 1000000000
    norm_num

end FloatingPoint

end CallingService
