import ScriptedDb.Number.Binary64

/-! The shortest decimal digits that read back as a given number. All reals in an interval around a
number round to it; the first decimal grid with a point in that interval gives the digits, and only
the two neighbours of the number have to be tried on it. -/

namespace ScriptedDb.Shortest

/-- Which of two equally near points is taken. -/
inductive Tie where
  /-- The greater one. -/
  | up
  /-- The one whose last digit is even. -/
  | even
  deriving DecidableEq, Repr

/-- The interval of the reals that round to a positive finite number, and the number itself, as
numerators over one denominator. -/
structure Interval where
  low : Nat
  value : Nat
  high : Nat
  den : Nat
  closed : Bool

/-- Halfway to the neighbours on both sides. Below a power of two the spacing halves, except at the
smallest normal number. -/
def Interval.of (x : Binary64) : Interval :=
  let m := x.mantissa
  let gap := if m = Nat.pow 2 52 ∧ Nat.pow 2 53 ≤ x.magnitude then 1 else 2
  let scale := Nat.pow 2 x.exponent.toNat
  { low := (4 * m - gap) * scale
    value := 4 * m * scale
    high := (4 * m + 2) * scale
    den := 4 * Nat.pow 2 (-x.exponent).toNat
    closed := m % 2 = 0 }

/-- Whether `n · 10 ^ k` lies in the interval. -/
def Interval.holds (i : Interval) (n : Nat) (k : Int) : Bool :=
  let point := n * Nat.pow 10 k.toNat * i.den
  let low := i.low * Nat.pow 10 (-k).toNat
  let high := i.high * Nat.pow 10 (-k).toNat
  if i.closed then low ≤ point && point ≤ high else low < point && point < high

def digitCount (n : Nat) : Nat :=
  (Nat.toDigits 10 n).length

/-- The greatest `k` with `10 ^ k ≤ num / den`, for positive `num` and `den`. -/
def decimalOrder (num den : Nat) : Int :=
  let k : Int := (digitCount num : Int) - digitCount den
  if den * Nat.pow 10 k.toNat ≤ num * Nat.pow 10 (-k).toNat then k else k - 1

/-- The point of the grid `ℕ · 10 ^ k` that lies in the interval and is nearest to the value. -/
def Interval.nearest? (i : Interval) (tie : Tie) (k : Int) : Option Nat :=
  let num := i.value * Nat.pow 10 (-k).toNat
  let den := i.den * Nat.pow 10 k.toNat
  let below := num / den
  let rest := num % den
  let upper : Bool :=
    if 2 * rest = den then (match tie with | .up => true | .even => below % 2 == 1)
    else den < 2 * rest
  match i.holds below k, rest != 0 && i.holds (below + 1) k with
  | true, true => some (if upper then below + 1 else below)
  | true, false => some below
  | false, true => some (below + 1)
  | false, false => none

def Interval.search (i : Interval) (tie : Tie) : (tries : Nat) → (k : Int) → Nat × Int
  | 0, k => (i.value * Nat.pow 10 (-k).toNat / (i.den * Nat.pow 10 k.toNat), k)
  | tries + 1, k =>
    match i.nearest? tie k with
    | some n => (n, k)
    | none => i.search tie tries (k - 1)

def stripZeros : (fuel : Nat) → Nat → Int → Nat × Int
  | 0, n, k => (n, k)
  | fuel + 1, n, k => if n ≠ 0 ∧ n % 10 = 0 then stripZeros fuel (n / 10) (k + 1) else (n, k)

/-- The shortest decimal `n · 10 ^ k` that reads back as a positive finite number, `n` not a
multiple of ten. Seventeen digits always suffice. -/
def digits (tie : Tie) (x : Binary64) : Nat × Int :=
  let i := Interval.of x
  let (n, k) := i.search tie 17 (decimalOrder i.value i.den)
  stripZeros 17 n k

end ScriptedDb.Shortest
