import ScriptedDb.Pattern.Automaton.ClassStates
import ScriptedDb.Pattern.Automaton.LiteralTree
import ScriptedDb.Pattern.Beginning

/-! A pattern is searched for with two automata, one for each direction, and refused if one of them
would be too large. Counted repetitions are written out, so their counts multiply. -/

namespace ScriptedDb.Pattern

/-- How many bytes an automaton may take. -/
def sizeLimit : Nat := 10 * Nat.pow 2 20

namespace Regex

def literal? : Regex → Option (List Char)
  | .literal cs => some cs
  | _ => none

mutual

def grow (backward : Bool) : Regex → Growth → Growth
  | .empty, g => g.add
  | .literal cs, g => g.add (literalBytes cs).length
  | .set _ cls, g => growClass backward g cls
  | .look _, g => g.add
  | .seq parts, g => if backward then growBack parts g else growOn parts g
  | .alt branches, g =>
    match branches.mapM literal? with
    | some literals =>
      let bytes := literals.map literalBytes
      growLiterals g (if backward then bytes.map List.reverse else bytes)
    | none => growBranches backward branches branches.length 0 g
  | .repeated 0 (some 1) _ body, g => (body.grow backward (g.addFork 2)).add
  | .repeated 0 none _ body, g =>
    if body.minLength?.any (0 < ·) then body.grow backward (g.addFork 2)
    else ((body.grow backward g).addFork 2 |>.addFork 2).add
  | .repeated least none _ body, g =>
    (Growth.times sizeLimit (body.grow backward) least g).addFork 2
  | .repeated least (some most) _ body, g =>
    let g := if least = 0 then g.add else Growth.times sizeLimit (body.grow backward) least g
    if least = most then g
    else
      Growth.times sizeLimit (fun g => body.grow backward (g.addFork 2)) (most - least) g.add
  | .group _ body, g => if backward then body.grow true g else (body.grow false g.add).add

/-- Grow by the states of the parts of a sequence, the first one first. -/
def growOn : List Regex → Growth → Growth
  | [], g => g
  | r :: rs, g => growOn rs (r.grow false g)

/-- Grow by the states of the parts of a sequence, the last one first. -/
def growBack : List Regex → Growth → Growth
  | [], g => g
  | r :: rs, g => r.grow true (growBack rs g)

/-- Grow by the states of the branches of a choice of which `done` are there; after the second one
come the fork and the state where all branches end. -/
def growBranches (backward : Bool) : List Regex → (ways done : Nat) → Growth → Growth
  | [], _, _, g => g
  | r :: rs, ways, done, g =>
    let g := r.grow backward g
    growBranches backward rs ways (done + 1) (if done = 1 then (g.addFork ways).add else g)

end

mutual

/-- Whether every match begins at the start of the text, by a condition in front. -/
def startsText : Regex → Bool
  | .look l => l = .textStart
  | .seq parts => someStartsText parts
  | .alt branches => allStartText branches
  | .repeated least _ _ body => 0 < least && body.startsText
  | .group _ body => body.startsText
  | _ => false

/-- Whether one of the parts at the front of a sequence that take no character starts the text. -/
def someStartsText : List Regex → Bool
  | [] => false
  | r :: rs => r.startsText || (r.isZeroWidth && someStartsText rs)

def allStartText : List Regex → Bool
  | [] => true
  | r :: rs => r.startsText && allStartText rs

end

mutual

/-- Whether every match ends at the end of the text, by a condition at its back. -/
def endsText : Regex → Bool
  | .look l => l = .textEnd
  | .seq parts => someEndsText parts false
  | .alt branches => allEndText branches
  | .repeated least _ _ body => 0 < least && body.endsText
  | .group _ body => body.endsText
  | _ => false

/-- Whether one of the parts at the back of a sequence that take no character ends the text.
`before` tells it of the parts before those of the list. -/
def someEndsText : List Regex → (before : Bool) → Bool
  | [], before => before
  | r :: rs, before => someEndsText rs (r.endsText || (r.isZeroWidth && before))

def allEndText : List Regex → Bool
  | [] => true
  | r :: rs => r.endsText && allEndText rs

end

/-- The start of an automaton: one state where all matches begin at the same end of the text, else
a loop over any byte. -/
def opening (anchored : Bool) : Growth :=
  if anchored then ({} : Growth).add else (({} : Growth).addFork 2).add.addChoices 1

/-- How many bytes the automaton that reads forwards takes: it also has states around the whole
match and one where it ends. -/
def forwardSize (r : Regex) : Nat :=
  ((r.grow false (opening r.startsText).add).add 2).bytes

def backwardSize (r : Regex) : Nat :=
  ((r.grow true (opening r.endsText)).add).bytes

/-- Whether a pattern is a choice between at least 3000 literals. -/
def isWordList : Regex → Bool
  | .alt branches => 3000 ≤ branches.length && (branches.mapM literal?).isSome
  | _ => false

/-- Whether the automata of a pattern keep within the limit, or it can do without them. -/
def fits (r : Regex) : Bool :=
  (r.forwardSize ≤ sizeLimit && r.backwardSize ≤ sizeLimit) || r.isWordList
    || r.isFoundByLiterals

end Regex

end ScriptedDb.Pattern
