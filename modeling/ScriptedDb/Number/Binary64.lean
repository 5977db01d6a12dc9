/-! Floating-point numbers, kept as their bits. Equality of the type is equality of bits; numeric
equality and the total order are coarser views. -/

namespace ScriptedDb

/-- A 64-bit binary floating-point number: sign, eleven bits of exponent, 52 of fraction. -/
structure Binary64 where
  bits : UInt64
  deriving DecidableEq, Repr, Inhabited

namespace Binary64

def isNegative (x : Binary64) : Bool :=
  Nat.pow 2 63 ≤ x.bits.toNat

/-- The bits without the sign. They order the absolute values. -/
def magnitude (x : Binary64) : Nat :=
  x.bits.toNat % Nat.pow 2 63

/-- The magnitude of the infinities; finite numbers have a smaller one and NaNs a greater one. -/
def infiniteMagnitude : Nat :=
  0x7FF * Nat.pow 2 52

def ofParts (negative : Bool) (magnitude : Nat) : Binary64 :=
  ⟨UInt64.ofNat (magnitude + if negative then Nat.pow 2 63 else 0)⟩

def isNaN (x : Binary64) : Bool :=
  infiniteMagnitude < x.magnitude

def isInfinite (x : Binary64) : Bool :=
  x.magnitude = infiniteMagnitude

def isFinite (x : Binary64) : Bool :=
  x.magnitude < infiniteMagnitude

def isZero (x : Binary64) : Bool :=
  x.magnitude = 0

/-- The integer that is scaled by a power of two: the fraction, with the bit that normal numbers
leave implicit. -/
def mantissa (x : Binary64) : Nat :=
  if x.magnitude < Nat.pow 2 52 then x.magnitude else Nat.pow 2 52 + x.magnitude % Nat.pow 2 52

/-- The power of two that scales the mantissa. Numbers below `2 ^ -1022` share the exponent of the
smallest normal ones. -/
def exponent (x : Binary64) : Int :=
  (max (x.magnitude / Nat.pow 2 52) 1 : Nat) - 1075

/-- The absolute value of a finite number as a quotient of two natural numbers. -/
def ratio (x : Binary64) : Nat × Nat :=
  (x.mantissa * Nat.pow 2 x.exponent.toNat, Nat.pow 2 (-x.exponent).toNat)

def neg (x : Binary64) : Binary64 :=
  ofParts (!x.isNegative) x.magnitude

/-- Numeric equality: a NaN equals nothing and the two zeros are equal. -/
def eqv (x y : Binary64) : Bool :=
  !x.isNaN && !y.isNaN && (x == y || x.isZero && y.isZero)

/-- Whether a number is finite and its exact value is `i`. -/
def isInteger (x : Binary64) (i : Int) : Bool :=
  let (num, den) := x.ratio
  x.isFinite && (if x.isNegative then -(num : Int) else num) == i * den

/-- The place of a number in the total order, in which equal keys mean equal bits. -/
def orderKey (x : Binary64) : Int :=
  if x.isNegative then -1 - (x.magnitude : Int) else x.magnitude

/-- The total order on bits. -/
def totalCompare (x y : Binary64) : Ordering :=
  compare x.orderKey y.orderKey

end Binary64

end ScriptedDb
