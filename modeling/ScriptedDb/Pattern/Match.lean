import Std.Data.HashMap
import ScriptedDb.Pattern.Syntax
import ScriptedDb.Pattern.Table.WordCharacter

/-! Matching with sets of positions: bit `i` of a natural number says whether position `i` is in the
set. A pattern takes the positions where a match may begin to those where one may end. -/

namespace ScriptedDb.Pattern

def isAsciiWord (c : Char) : Bool :=
  c.isAlphanum || c == '_'

def isWord (unicode : Bool) (c : Char) : Bool :=
  isAsciiWord c || (unicode && wordCharacters.contains c)

def without (s t : Nat) : Nat :=
  s ^^^ (s &&& t)

/-- Characters are told apart by their code points. -/
instance hashableByCodePoint : Hashable Char where
  hash c := hash c.val

/-- A text by where its characters stand: its length, and for each character that occurs the
positions before it. -/
structure Positions where
  length : Nat
  before : Std.HashMap Char Nat

namespace Positions

def ofText (text : List Char) : Positions :=
  let (length, before) := text.foldl (fun (i, before) c =>
    (i + 1, before.insert c ((before.getD c 0) ||| (1 <<< i)))) (0, ({} : Std.HashMap Char Nat))
  { length, before }

def all (t : Positions) : Nat :=
  (1 <<< (t.length + 1)) - 1

def beforeChar (t : Positions) (c : Char) : Nat :=
  t.before.getD c 0

def beforeAny (t : Positions) (test : Char → Bool) : Nat :=
  t.before.fold (fun acc c s => if test c then acc ||| s else acc) 0

def afterAny (t : Positions) (test : Char → Bool) : Nat :=
  t.beforeAny test <<< 1

/-- The positions where a condition holds. -/
def standing (t : Positions) (l : Look) : Nat :=
  let start := 1
  let stop := 1 <<< t.length
  let feed := t.beforeChar '\n'
  let carriage := t.beforeChar '\r'
  match l with
  | .textStart => start
  | .textEnd => stop
  | .lineStart => start ||| (feed <<< 1)
  | .lineEnd => stop ||| feed
  | .lineStartAny => start ||| (feed <<< 1) ||| without (carriage <<< 1) feed
  | .lineEndAny => stop ||| carriage ||| without feed (carriage <<< 1)
  | .wordBoundary u => t.afterAny (isWord u) ^^^ t.beforeAny (isWord u)
  | .notWordBoundary u => without t.all (t.afterAny (isWord u) ^^^ t.beforeAny (isWord u))
  | .wordStart u => without (t.beforeAny (isWord u)) (t.afterAny (isWord u))
  | .wordEnd u => without (t.afterAny (isWord u)) (t.beforeAny (isWord u))
  | .wordStartHalf u => without t.all (t.afterAny (isWord u))
  | .wordEndHalf u => without t.all (t.beforeAny (isWord u))

end Positions

/-- How many of a number of rounds have to be followed. Of more rounds than positions one stays where
it is, and it can be left out or done again. -/
def Positions.rounds (t : Positions) (count : Nat) : Nat :=
  min count (t.length + 1)

/-- A pattern laid over a text. Counted repetitions are written out. -/
inductive Overlay where
  /-- Take a character at one of some positions. -/
  | take (positions : Nat)
  /-- Take any number of characters, all at some positions. -/
  | run (positions : Nat)
  /-- Stand at one of some positions. -/
  | stand (positions : Nat)
  | seq (parts : List Overlay)
  | alt (branches : List Overlay)
  /-- Any number of the parts at the front, one after another. -/
  | upTo (parts : List Overlay)
  /-- The body once or more. Loops are numbered. -/
  | loop (index : Nat) (body : Overlay)

/-- Lay copies of a pattern over a text, given how to do it once from the number of the next loop
on. A pattern without loops is laid only once. -/
def copies (lay : Nat → Overlay × Nat) (count next : Nat) : List Overlay × Nat :=
  match count with
  | 0 => ([], next)
  | n + 1 =>
    let (o, after) := lay next
    if after = next then (List.replicate (n + 1) o, next) else go n after [o]
where
  /-- Lay a number of copies after those in `acc`, which are backwards. -/
  go : (count next : Nat) → List Overlay → List Overlay × Nat
    | 0, next, acc => (acc.reverse, next)
    | n + 1, next, acc =>
      let (o, next) := lay next
      go n next (o :: acc)

mutual

/-- Lay a pattern over a text; `next` is the number of the next loop. -/
def Regex.over (t : Positions) : Regex → (next : Nat) → Overlay × Nat
  | .empty, next => (.seq [], next)
  | .literal [c], next => (.take (t.beforeChar c), next)
  | .literal cs, next => (.seq (cs.map fun c => .take (t.beforeChar c)), next)
  | .set _ cls, next => (.take (t.beforeAny cls.contains), next)
  | .look l, next => (.stand (t.standing l), next)
  | .seq parts, next =>
    let (os, next) := Regex.allOver t parts next []
    (.seq os, next)
  | .alt branches, next =>
    let (os, next) := Regex.allOver t branches next []
    (.alt os, next)
  | .repeated least none _ body, next =>
    match body.over t next with
    | (.take p, next) => (.seq (List.replicate (t.rounds least) (.take p) ++ [.run p]), next)
    | (o, next) =>
      let (os, next) := copies (body.over t) (t.rounds (least - 1)) next
      let loop := .loop next o
      (.seq (os ++ [if least = 0 then .upTo [loop] else loop]), next + 1)
  | .repeated least (some most) _ body, next =>
    let (os, next) := copies (body.over t) (t.rounds least) next
    let (more, next) := copies (body.over t) (t.rounds (most - least)) next
    (.seq (os ++ [.upTo more]), next)
  | .group _ body, next => body.over t next

/-- Lay each pattern of a list over a text; `acc` are those before, backwards. -/
def Regex.allOver (t : Positions) :
    List Regex → (next : Nat) → List Overlay → List Overlay × Nat
  | [], next, acc => (acc.reverse, next)
  | r :: rs, next, acc =>
    let (o, next) := r.over t next
    Regex.allOver t rs next (o :: acc)

end

/-- The positions at which each loop was entered so far, by the number of the loop. -/
abbrev Entered := Std.HashMap Nat Nat

/-- The positions that runs of characters at the positions `m` reach from the positions `s`. In the
sum a position in a run carries to the end of the run. -/
def spread (m s : Nat) : Nat :=
  (((s &&& m) + m) ^^^ m) ||| s

/-- Go around a loop from the positions `s`, but never twice from the same position, as what that
reaches is known; `acc` is what was reached. Every round but the last enters at a new position. -/
def goAround (body : Nat → Entered → Nat × Entered) (index : Nat) :
    (rounds : Nat) → (s acc : Nat) → Entered → Nat × Entered
  | 0, _, acc, entered => (acc, entered)
  | n + 1, s, acc, entered =>
    let before := entered.getD index 0
    let new := without s before
    if new = 0 then (acc, entered)
    else
      let (t, entered) := body new (entered.insert index (before ||| new))
      goAround body index n t (acc ||| t) entered

mutual

/-- The positions where a match may end that begins at one of the positions `s`, in a text with
`size` positions. For a loop, what it reaches from positions where it was entered before may be
missing. -/
def Overlay.ends (size : Nat) : Overlay → Nat → Entered → Nat × Entered
  | .take p, s, entered => ((s &&& p) <<< 1, entered)
  | .run p, s, entered => (spread p s, entered)
  | .stand p, s, entered => (s &&& p, entered)
  | .seq parts, s, entered => Overlay.endsAll size parts s entered
  | .alt branches, s, entered => Overlay.endsAny size branches s 0 entered
  | .upTo parts, s, entered => Overlay.endsUpTo size parts s s entered
  | .loop index body, s, entered => goAround (body.ends size) index size s 0 entered

/-- The positions where matches of all overlays of a list, one after another, may end. -/
def Overlay.endsAll (size : Nat) : List Overlay → Nat → Entered → Nat × Entered
  | [], s, entered => (s, entered)
  | o :: os, s, entered =>
    if s = 0 then (0, entered)
    else
      let (s, entered) := o.ends size s entered
      Overlay.endsAll size os s entered

/-- The positions where a match of any overlay of a list may end, beside the positions `acc`. -/
def Overlay.endsAny (size : Nat) : List Overlay → (s acc : Nat) → Entered → Nat × Entered
  | [], _, acc, entered => (acc, entered)
  | o :: os, s, acc, entered =>
    let (t, entered) := o.ends size s entered
    Overlay.endsAny size os s (acc ||| t) entered

/-- The positions where matches of overlays at the front of a list, one after another, may end,
beside the positions `acc`; what was reached before is not followed again. -/
def Overlay.endsUpTo (size : Nat) : List Overlay → (s acc : Nat) → Entered → Nat × Entered
  | [], _, acc, entered => (acc, entered)
  | o :: os, s, acc, entered =>
    if s = 0 then (acc, entered)
    else
      let (t, entered) := o.ends size s entered
      Overlay.endsUpTo size os (without t acc) (acc ||| t) entered

end

def Regex.isMatch (r : Regex) (text : List Char) : Bool :=
  let t := Positions.ofText text
  ((r.over t 0).1.ends (t.length + 1) t.all {}).1 != 0

end ScriptedDb.Pattern
