import Mathlib.Algebra.Field.Rat
import ScriptedDb.Number.Binary64

/-! A finite number stands for a rational number, which both zeros share, and the infinities stand
for themselves. A NaN stands for nothing. -/

namespace ScriptedDb

/-- A rational number, or one of the two infinities. -/
inductive Extended where
  | finite (q : ℚ)
  | infinite (negative : Bool)
  deriving DecidableEq

namespace Binary64

/-- The exact value of a finite number: `± mantissa · 2 ^ exponent`. -/
def toRat (x : Binary64) : ℚ :=
  (if x.isNegative then -1 else 1) * x.mantissa * 2 ^ x.exponent

/-- An integer that is the exact value of some finite number. -/
def Representable (i : ℤ) : Prop :=
  ∃ x : Binary64, x.isFinite = true ∧ x.toRat = i

/-- The numeric value of a number, which a NaN has not. -/
def numeric? (x : Binary64) : Option Extended :=
  if x.isFinite then some (.finite x.toRat)
  else if x.isInfinite then some (.infinite x.isNegative)
  else none

end Binary64

end ScriptedDb
