import ScriptedDb.Pattern.CharClass

/-! Patterns are built in a normal form with the same matches, in which literals and classes are
joined and common beginnings taken out of choices; the size of a pattern is measured on it. -/

namespace ScriptedDb.Pattern

/-- A condition on a position in a text. -/
inductive Look where
  | textStart
  | textEnd
  /-- After a line feed or at the start. -/
  | lineStart
  /-- Before a line feed or at the end. -/
  | lineEnd
  /-- After a line end of either kind, or at the start; never inside a pair of both characters. -/
  | lineStartAny
  /-- Before a line end of either kind, or at the end; never inside a pair of both characters. -/
  | lineEndAny
  | wordBoundary (unicode : Bool)
  | notWordBoundary (unicode : Bool)
  | wordStart (unicode : Bool)
  | wordEnd (unicode : Bool)
  /-- Not after a word character. -/
  | wordStartHalf (unicode : Bool)
  /-- Not before a word character. -/
  | wordEndHalf (unicode : Bool)
  deriving DecidableEq

inductive Regex where
  | empty
  /-- Characters one after another, at least one. -/
  | literal (chars : List Char)
  /-- One character of a class. -/
  | set (alphabet : Alphabet) (cls : CharClass)
  | look (condition : Look)
  | seq (parts : List Regex)
  | alt (branches : List Regex)
  /-- At least `least` and, unless it is `none`, at most `most` times. Greediness does not change
  whether there is a match. -/
  | repeated (least : Nat) (most : Option Nat) (greedy : Bool) (body : Regex)
  /-- A group that captures, with its number. -/
  | group (index : Nat) (body : Regex)

namespace Regex

mutual

def same : Regex → Regex → Bool
  | .empty, .empty => true
  | .literal a, .literal b => a == b
  | .set alphabet a, .set alphabet' b => alphabet == alphabet' && a == b
  | .look a, .look b => a == b
  | .seq a, .seq b => sameAll a b
  | .alt a, .alt b => sameAll a b
  | .repeated least most greedy a, .repeated least' most' greedy' b =>
    least == least' && most == most' && greedy == greedy' && same a b
  | .group i a, .group j b => i == j && same a b
  | _, _ => false

def sameAll : List Regex → List Regex → Bool
  | [], [] => true
  | a :: as, b :: bs => same a b && sameAll as bs
  | _, _ => false

end

mutual

/-- Whether a pattern can match, and then only the empty text. A class, even one without a
character, is not such a pattern. -/
def isZeroWidth : Regex → Bool
  | .empty => true
  | .literal cs => cs.isEmpty
  | .set _ _ => false
  | .look _ => true
  | .seq parts => allZeroWidth parts
  | .alt branches => allZeroWidth branches
  | .repeated _ _ _ body => body.isZeroWidth
  | .group _ body => body.isZeroWidth

def allZeroWidth : List Regex → Bool
  | [] => true
  | r :: rs => r.isZeroWidth && allZeroWidth rs

end

mutual

/-- How many characters a match has at least; `none` where a class has no character. -/
def minLength? : Regex → Option Nat
  | .empty => some 0
  | .literal cs => some cs.length
  | .set _ cls => if cls.spans.isEmpty then none else some 1
  | .look _ => some 0
  | .seq parts => minTotal? parts 0
  | .alt branches => minOf? branches
  | .repeated least _ _ body => body.minLength?.map (least * ·)
  | .group _ body => body.minLength?

/-- How many characters matches of all patterns of a list have together at least, and `n` more. -/
def minTotal? : List Regex → Nat → Option Nat
  | [], n => some n
  | r :: rs, n =>
    match r.minLength? with
    | none => none
    | some m => minTotal? rs (n + m)

def minOf? : List Regex → Option Nat
  | [] => none
  | [r] => r.minLength?
  | r :: rs =>
    match r.minLength?, minOf? rs with
    | some m, some n => some (min m n)
    | _, _ => none

end

/-- The pattern of a class. A class without a character is one of ASCII. -/
def ofClass (alphabet : Alphabet) (cls : CharClass) : Regex :=
  match cls.single? with
  | some n => .literal [Char.ofNat n]
  | none => .set (if cls.spans.isEmpty then .ascii else alphabet) cls

/-- The parts of a pattern that is a sequence, else the pattern. -/
def parts : Regex → List Regex
  | .empty => []
  | .seq ps => ps
  | r => [r]

/-- The branches of a pattern that is a choice, else the pattern. -/
def branches : Regex → List Regex
  | .alt bs => bs
  | r => [r]

/-- Join literals that follow one another. `held` are literals not yet joined, backwards. -/
def joinLiterals (held : List (List Char)) : List Regex → List Regex
  | [] => flush held []
  | .literal cs :: rest => joinLiterals (cs :: held) rest
  | r :: rest => flush held (r :: joinLiterals [] rest)
where
  /-- Put joined literals in front of a list. -/
  flush (held : List (List Char)) (rest : List Regex) : List Regex :=
    if held.isEmpty then rest else .literal held.reverse.flatten :: rest

def join (rs : List Regex) : Regex :=
  match joinLiterals [] (rs.flatMap parts) with
  | [] => .empty
  | [r] => r
  | rs => .seq rs

def class? : Regex → Option CharClass
  | .set _ cls => some cls
  | _ => none

def char? : Regex → Option Char
  | .literal [c] => some c
  | _ => none

/-- The class that a choice between some characters, or between some classes, is. -/
def classOf? (bs : List Regex) : Option CharClass :=
  match bs.mapM char? with
  | some cs => some (.ofSpans (cs.map fun c => (c.toNat, c.toNat)))
  | none => (bs.mapM class?).map fun sets => .ofSpans (sets.flatMap (·.spans.toList))

/-- A choice without a common beginning of its branches. -/
def chooseFlat (bs : List Regex) : Regex :=
  match bs with
  | [b] => b
  | bs =>
    match classOf? bs with
    | some cls => ofClass .unicode cls
    | none => .alt bs

def commonParts : List Regex → List Regex → Nat
  | a :: as, b :: bs => if same a b then commonParts as bs + 1 else 0
  | _, _ => 0

def seq? : Regex → Option (List Regex)
  | .seq ps => some ps
  | _ => none

/-- One of some patterns. Parts that all branches begin with stand before the choice. -/
def choose (rs : List Regex) : Regex :=
  let bs := rs.flatMap branches
  match chooseFlat bs, bs.mapM seq? with
  | .alt bs, some (first :: others) =>
    let n := others.foldl (fun n ps => min n (commonParts first ps)) first.length
    if n = 0 then .alt bs
    else
      let rests := (first :: others).map fun ps => join (ps.drop n)
      join (first.take n ++ [chooseFlat (rests.flatMap branches)])
  | r, _ => r

/-- A pattern a number of times. What matches only the empty text is not repeated. -/
def times (least : Nat) (most : Option Nat) (greedy : Bool) (body : Regex) : Regex :=
  let bounds : Nat × Option Nat :=
    if body.isZeroWidth then (min least 1, some ((most.map (min · 1)).getD 1)) else (least, most)
  match bounds with
  | (0, some 0) => .empty
  | (1, some 1) => body
  | (least, most) => .repeated least most greedy body

end Regex

end ScriptedDb.Pattern
