import ScriptedDb.Text.CodeRanges

/-! A set has its spans in increasing order, with a code point between any two, and every operation
keeps that form. The code points `D800` to `DFFF` are no characters, so `E000` comes after `D7FF`.
-/

namespace ScriptedDb.Text.CodeRanges

def top : Nat := 0x10FFFF

def following (n : Nat) : Nat :=
  if n = 0xD7FF then 0xE000 else n + 1

def preceding (n : Nat) : Nat :=
  if n = 0xE000 then 0xD7FF else n - 1

def empty : CodeRanges := ⟨#[]⟩

def all : CodeRanges := ⟨#[(0, top)]⟩

def span (low high : Char) : CodeRanges := ⟨#[(low.toNat, high.toNat)]⟩

/-- Join a span with those of a sorted list that overlap or touch it, and so on with the rest. -/
def merge (low high : Nat) : List (Nat × Nat) → List (Nat × Nat)
  | [] => [(low, high)]
  | (a, b) :: rest =>
    if a ≤ high + 1 then merge low (max high b) rest else (low, high) :: merge a b rest

def ofSpans (spans : List (Nat × Nat)) : CodeRanges :=
  match spans.mergeSort fun x y => x.1 < y.1 || (x.1 == y.1 && x.2 ≤ y.2) with
  | [] => empty
  | (a, b) :: rest => ⟨(merge a b rest).toArray⟩

def union (a b : CodeRanges) : CodeRanges :=
  ofSpans (a.spans.toList ++ b.spans.toList)

def common : List (Nat × Nat) → List (Nat × Nat) → List (Nat × Nat)
  | [], _ => []
  | _, [] => []
  | (a, b) :: as, (c, d) :: bs =>
    let rest := if b < d then common as ((c, d) :: bs) else common ((a, b) :: as) bs
    if max a c ≤ min b d then (max a c, min b d) :: rest else rest
  termination_by as bs => as.length + bs.length

def intersection (a b : CodeRanges) : CodeRanges :=
  ⟨(common a.spans.toList b.spans.toList).toArray⟩

def beyond : List (Nat × Nat) → List (Nat × Nat) → List (Nat × Nat)
  | [], _ => []
  | as, [] => as
  | (a, b) :: as, (c, d) :: bs =>
    if d < a then beyond ((a, b) :: as) bs
    else if b < c then (a, b) :: beyond as ((c, d) :: bs)
    else
      let rest :=
        if d < b then beyond ((following d, b) :: as) bs else beyond as ((c, d) :: bs)
      if a < c then (a, preceding c) :: rest else rest
  termination_by as bs => as.length + bs.length

def difference (a b : CodeRanges) : CodeRanges :=
  ⟨(beyond a.spans.toList b.spans.toList).toArray⟩

def symmetricDifference (a b : CodeRanges) : CodeRanges :=
  (a.union b).difference (a.intersection b)

/-- The spans after `high` that a list leaves out. Each reaches from the character after a span to
the character before the next one, whichever of the two is first. -/
def gaps : (high : Nat) → List (Nat × Nat) → List (Nat × Nat)
  | high, [] => if high < top then [(following high, top)] else []
  | high, (a, b) :: rest =>
    (min (following high) (preceding a), max (following high) (preceding a)) :: gaps b rest

def complement (r : CodeRanges) : CodeRanges :=
  match r.spans.toList with
  | [] => all
  | (a, b) :: rest => ⟨((if 0 < a then [(0, preceding a)] else []) ++ gaps b rest).toArray⟩

def negateIf (negated : Bool) (r : CodeRanges) : CodeRanges :=
  if negated then r.complement else r

def single? (r : CodeRanges) : Option Nat :=
  match r.spans with
  | #[(a, b)] => if a = b then some a else none
  | _ => none

def count (r : CodeRanges) : Nat :=
  r.spans.toList.foldr (fun (low, high) n => (high + 1 - low) + n) 0

def codePoints (r : CodeRanges) : List Nat :=
  r.spans.toList.flatMap fun (low, high) => List.range' low (high + 1 - low)

def isAscii (r : CodeRanges) : Bool :=
  r.spans.back?.all (·.2 < 128)

end ScriptedDb.Text.CodeRanges
