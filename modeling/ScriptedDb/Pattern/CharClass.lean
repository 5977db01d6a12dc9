import ScriptedDb.Pattern.Table.CaseVariant
import ScriptedDb.Text.CodeRanges.Algebra

/-! To ignore case, a class takes in the case variants of what it holds, before it is negated; so a
negated class holds no variant of what it excludes. -/

namespace ScriptedDb.Pattern

abbrev CharClass := Text.CodeRanges

/-- What a class is written in. A class of ASCII matches like the class of Unicode with the same
characters, but it is another part of a pattern. -/
inductive Alphabet where
  | unicode
  | ascii
  deriving DecidableEq

/-- A table of case variants being read: whole entries, the character of the entry being read, its
variants backwards, and the digits read last. -/
structure VariantReading where
  entries : Array (Nat × List Nat) := #[]
  char : Option Nat := none
  others : List Nat := []
  digits : Nat := 0

def VariantReading.push (r : VariantReading) (c : Char) : VariantReading :=
  match Text.CodeRanges.hexDigit? c with
  | some d => { r with digits := r.digits * 16 + d }
  | none =>
    if c = ':' then { r with char := some r.digits, digits := 0 }
    else if c = ',' then { r with others := r.digits :: r.others, digits := 0 }
    else
      match r.char with
      | some n => { entries := r.entries.push (n, (r.digits :: r.others).reverse) }
      | none => r

def caseVariantEntries : Array (Nat × List Nat) :=
  (caseVariantTable.foldl (fun r line => (line.foldl VariantReading.push r).push ' ')
    ({} : VariantReading)).entries

def caseVariantList : List (Nat × List Nat) :=
  caseVariantEntries.toList

/-- Halve the window `[lo, hi)` of entries until one of them is for `n`. -/
def findVariants (entries : Array (Nat × List Nat)) (n : Nat) :
    (fuel lo hi : Nat) → List Nat
  | 0, _, _ => []
  | fuel + 1, lo, hi =>
    if lo < hi then
      let mid := (lo + hi) / 2
      match entries[mid]? with
      | none => []
      | some (m, others) =>
        if n < m then findVariants entries n fuel lo mid
        else if m < n then findVariants entries n fuel (mid + 1) hi
        else others
    else []

def variantsWithin : List (Nat × List Nat) → List (Nat × Nat) → List (Nat × Nat)
  | [], _ => []
  | _, [] => []
  | (n, others) :: entries, (low, high) :: spans =>
    if n < low then variantsWithin entries ((low, high) :: spans)
    else if high < n then variantsWithin ((n, others) :: entries) spans
    else others.map (fun m => (m, m)) ++ variantsWithin entries ((low, high) :: spans)
  termination_by entries spans => entries.length + spans.length

/-- The part of a span between two characters, moved so that the first of them comes to `target`. -/
def shiftWithin (first last target : Nat) (s : Nat × Nat) : List (Nat × Nat) :=
  let low := max first s.1
  let high := min last s.2
  if low ≤ high then [(target + (low - first), target + (high - first))] else []

inductive CaseMode where
  /-- Characters that differ in case are different. -/
  | exact
  /-- The case of the letters `A` to `Z` is ignored. -/
  | ascii
  /-- Case is ignored. -/
  | unicode
  deriving DecidableEq

def CaseMode.close (mode : CaseMode) (cls : CharClass) : CharClass :=
  let spans := cls.spans.toList
  match mode with
  | .exact => cls
  | .ascii =>
    .ofSpans (spans ++ spans.flatMap (shiftWithin 0x41 0x5A 0x61)
      ++ spans.flatMap (shiftWithin 0x61 0x7A 0x41))
  | .unicode => .ofSpans (spans ++ variantsWithin caseVariantList spans)

/-- The class of a character with those that count as the same. -/
def CaseMode.ofChar (mode : CaseMode) (c : Char) : CharClass :=
  match mode with
  | .unicode =>
    let n := c.toNat
    let entries := caseVariantEntries
    .ofSpans ((n :: findVariants entries n (entries.size + 1) 0 entries.size).map fun m => (m, m))
  | mode => mode.close (.span c c)

end ScriptedDb.Pattern
