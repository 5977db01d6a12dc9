import ScriptedDb.Number.Rounding

/-! Reading numbers from text. -/

namespace ScriptedDb.Numeral

def isDigit (c : Char) : Bool :=
  '0' ≤ c && c ≤ '9'

def digit (c : Char) : Nat :=
  c.toNat - 48

/-- The number that digits write, after digits that wrote `start`. -/
def value (start : Nat) (ds : List Char) : Nat :=
  ds.foldl (fun n c => 10 * n + digit c) start

def sign : List Char → Bool × List Char
  | '-' :: cs => (true, cs)
  | '+' :: cs => (false, cs)
  | cs => (false, cs)

def int64? (cs : List Char) : Option Int64 :=
  let (negative, ds) := sign cs
  if ds.isEmpty || !ds.all isDigit then none
  else
    let n := value 0 ds
    let i : Int := if negative then -(n : Int) else n
    if Int64.minValue.toInt ≤ i ∧ i ≤ Int64.maxValue.toInt then some (Int64.ofInt i) else none

/-- The exponent after the digits of a numeral, 0 if there is none. -/
def exponent? : List Char → Option Int
  | [] => some 0
  | c :: cs =>
    if c = 'e' ∨ c = 'E' then
      let (negative, ds) := sign cs
      if ds.isEmpty || !ds.all isDigit then none
      else
        let n := value 0 ds
        some (if negative then -(n : Int) else n)
    else none

/-- The number nearest to `n · 10 ^ e`, where `n` has the decimal digits `count`. Powers far outside
the range of the format are not computed: the number is then infinite or zero. -/
def ofDecimal (negative : Bool) (n count : Nat) (e : Int) : Binary64 :=
  if n = 0 ∨ (count : Int) + e < -400 then .ofParts negative 0
  else if 400 < (count : Int) + e then .ofParts negative Binary64.infiniteMagnitude
  else .ofRatio negative (n * Nat.pow 10 e.toNat) (Nat.pow 10 (-e).toNat)

/-- The number that an unsigned decimal numeral writes: digits with at most one point, at least one
digit, and an optional exponent. -/
def decimal? (negative : Bool) (cs : List Char) : Option Binary64 :=
  let whole := cs.takeWhile isDigit
  let rest := cs.dropWhile isDigit
  let (fraction, tail) := match rest with
    | '.' :: rest => (rest.takeWhile isDigit, rest.dropWhile isDigit)
    | rest => ([], rest)
  if whole.isEmpty && fraction.isEmpty then none
  else
    (exponent? tail).map fun e =>
      let ds := (whole ++ fraction).dropWhile (· == '0')
      ofDecimal negative (value 0 ds) ds.length (e - fraction.length)

def lower (c : Char) : Char :=
  if 'A' ≤ c ∧ c ≤ 'Z' then Char.ofNat (c.toNat + 32) else c

def float? (cs : List Char) : Option Binary64 :=
  let (negative, body) := sign cs
  let word := String.ofList (body.map lower)
  if word = "inf" ∨ word = "infinity" then some (.ofParts negative Binary64.infiniteMagnitude)
  else if word = "nan" then some (.ofParts negative (Binary64.infiniteMagnitude + Nat.pow 2 51))
  else decimal? negative body

end ScriptedDb.Numeral
