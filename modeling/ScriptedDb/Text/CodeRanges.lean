/-! Sets of characters given by ranges of code points, as the Unicode character database lists them.
-/

namespace ScriptedDb.Text

/-- A set of code points: disjoint spans in increasing order, both ends included. -/
structure CodeRanges where
  spans : Array (Nat × Nat)
  deriving DecidableEq, Inhabited

namespace CodeRanges

def hexDigit? (c : Char) : Option Nat :=
  if '0' ≤ c ∧ c ≤ '9' then some (c.toNat - 48)
  else if 'a' ≤ c ∧ c ≤ 'f' then some (c.toNat - 87)
  else if 'A' ≤ c ∧ c ≤ 'F' then some (c.toNat - 55)
  else none

/-- What has been read of a table: whole spans, the lower end of a span whose upper end is being
read, and the digits read last. -/
structure Reading where
  spans : Array (Nat × Nat) := #[]
  low : Option Nat := none
  digits : Option Nat := none

def Reading.flush (r : Reading) : Reading :=
  match r.digits with
  | none => r
  | some high => { spans := r.spans.push (r.low.getD high, high) }

def Reading.push (r : Reading) (c : Char) : Reading :=
  match hexDigit? c with
  | some d => { r with digits := some (r.digits.getD 0 * 16 + d) }
  | none => if c = '-' then { r with low := r.digits, digits := none } else r.flush

/-- The set that the lines of a table list: hexadecimal code points, or pairs of them joined by a
hyphen, with blanks between. -/
def ofHex (table : List String) : CodeRanges :=
  ⟨(table.foldl (fun r line => (line.foldl Reading.push r).flush) ({} : Reading)).spans⟩

/-- Halve the window `[lo, hi)` of spans until one of them holds `n` or the window is empty. -/
def search (spans : Array (Nat × Nat)) (n : Nat) : (fuel lo hi : Nat) → Bool
  | 0, _, _ => false
  | fuel + 1, lo, hi =>
    if lo < hi then
      let mid := (lo + hi) / 2
      match spans[mid]? with
      | none => false
      | some (low, high) =>
        if n < low then search spans n fuel lo mid
        else if high < n then search spans n fuel (mid + 1) hi
        else true
    else false

def contains (r : CodeRanges) (c : Char) : Bool :=
  search r.spans c.toNat (r.spans.size + 1) 0 r.spans.size

end CodeRanges

end ScriptedDb.Text
