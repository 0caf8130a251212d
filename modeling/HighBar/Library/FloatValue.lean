import Mathlib.Data.Rat.Defs

/-!
# The values of a binary floating-point type

A float as the **value** it stands for: a rational number, one of the infinities, or not a number.
Programs that only store, compare and classify floats need no more than that, so there is no
rounding here. Comparisons are the IEEE ones, false whenever an operand is not a number; the two
zeros are one value, since they compare equal.
-/

/-- The value of a float. -/
inductive FloatValue where
  | nan
  | inf (negative : Bool)
  | finite (value : ℚ)
deriving Repr, DecidableEq

namespace FloatValue

/-- `std::isfinite`. -/
def isFinite : FloatValue → Bool
  | finite _ => true
  | nan | inf _ => false

/-- The comparison `a <= b`. -/
def le : FloatValue → FloatValue → Bool
  | nan, _ | _, nan => false
  | inf true, _ => true
  | _, inf false => true
  | finite a, finite b => decide (a ≤ b)
  | inf false, inf true | inf false, finite _ | finite _, inf true => false

/-- The comparison `a < b`. -/
def lt : FloatValue → FloatValue → Bool
  | nan, _ | _, nan => false
  | a, b => !le b a

/-- The literal `0.0f`. -/
def zero : FloatValue := finite 0

end FloatValue
