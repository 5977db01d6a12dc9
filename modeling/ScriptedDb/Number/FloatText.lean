import ScriptedDb.Number.Shortest

/-! Both formats of the library print the shortest digits that read back, and differ only in their
`FloatLayout`. -/

namespace ScriptedDb

structure FloatLayout where
  /-- The least decimal exponent of a number in positional notation. -/
  leastPositional : Int
  /-- The exponent from which positional notation is no longer used. -/
  positionalEnd : Int
  /-- The mark of an exponent that is not negative. -/
  exponentMark : String
  /-- The mark of a negative exponent. -/
  negativeMark : String
  tie : Shortest.Tie

namespace FloatLayout

/-- Positional notation of the digits `ds`, whose first has the weight `10 ^ order`, always with a
point and at least one digit on both sides of it. -/
def positional (ds : List Char) (order : Int) : List Char :=
  if order < 0 then
    '0' :: '.' :: List.replicate (-order - 1).toNat '0' ++ ds
  else
    let whole := order.toNat + 1
    let fraction := ds.drop whole
    ds.take whole ++ List.replicate (whole - ds.length) '0' ++ '.' ::
      (if fraction.isEmpty then ['0'] else fraction)

/-- Exponent notation of the digits `ds`: a point only if there is more than one digit. -/
def scientific (l : FloatLayout) (ds : List Char) (order : Int) : List Char :=
  let mark := if order < 0 then l.negativeMark else l.exponentMark
  let significand := match ds with
    | d :: e :: es => d :: '.' :: e :: es
    | ds => ds
  significand ++ mark.toList ++ Nat.toDigits 10 order.natAbs

/-- The digits of a finite number that is not negative. -/
def unsigned (l : FloatLayout) (x : Binary64) : List Char :=
  if x.isZero then ['0', '.', '0']
  else
    let (n, k) := Shortest.digits l.tie x
    let ds := Nat.toDigits 10 n
    let order := k + ds.length - 1
    if l.leastPositional ≤ order ∧ order < l.positionalEnd then positional ds order
    else l.scientific ds order

/-- The text of a number. A NaN shows neither sign nor payload. -/
def text (l : FloatLayout) (x : Binary64) : String :=
  if x.isNaN then "NaN"
  else
    let sign := if x.isNegative then "-" else ""
    sign ++ if x.isInfinite then "inf" else String.ofList (l.unsigned x)

end FloatLayout

/-- How a value is shown: positional from `10 ^ -4` and below `10 ^ 16`, else `1.5e-7` or `1e16`. -/
def FloatLayout.shown : FloatLayout :=
  ⟨-4, 16, "e", "e-", .up⟩

/-- How a JSON document writes a number: positional from `10 ^ -5` and below `10 ^ 16`, else
`1e-7` or `1e+16`. -/
def FloatLayout.json : FloatLayout :=
  ⟨-5, 16, "e+", "e-", .even⟩

end ScriptedDb
