import ScriptedDb.Pattern.Automaton.Size
import ScriptedDb.Pattern.Bracket
import ScriptedDb.Text.Letters

/-! The reader keeps the open groups on a stack. Flags that a group sets hold to its end, in its
later branches too. -/

namespace ScriptedDb.Pattern

/-- A part of a pattern that has been read, with the depth to which it nests. -/
structure Part where
  regex : Regex
  depth : Nat := 0
  /-- Flags are a part of a pattern too, but one that cannot be repeated. -/
  repeatable : Bool := true

/-- An open group: the parts and branches before it, backwards, the flags to come back to, and its
number if it captures. -/
structure OpenGroup where
  parts : List Part
  branches : List Part
  flags : Flags
  index : Option Nat

/-- The state of the reader: the parts of the current branch and the earlier branches of the
current group, both backwards, the flags in force, the open groups, the names of groups and how
many groups capture. -/
structure Reader where
  parts : List Part := []
  branches : List Part := []
  flags : Flags := {}
  groups : List OpenGroup := []
  names : List String := []
  captures : Nat := 0

/-- Several parts as one: two or more nest one level deeper. -/
def joinParts (join : List Regex → Regex) (parts : List Part) : Part :=
  match parts with
  | [] => ⟨.empty, 0, true⟩
  | [p] => p
  | parts => ⟨join (parts.map Part.regex), 1 + parts.foldl (fun d p => max d p.depth) 0, true⟩

namespace Reader

def branch (r : Reader) : Part :=
  joinParts Regex.join r.parts.reverse

/-- The current group: any of its branches. -/
def body (r : Reader) : Part :=
  joinParts Regex.choose (r.branch :: r.branches).reverse

def add (r : Reader) (regex : Regex) (depth : Nat := 0) : Reader :=
  { r with parts := ⟨regex, depth, true⟩ :: r.parts }

/-- Repeat the last part. A repetition that is marked has the other greediness. -/
def repeatLast (r : Reader) (least : Nat) (most : Option Nat) (marked : Bool) :
    Except Fault Reader :=
  match r.parts with
  | p :: parts =>
    if p.repeatable then
      let regex := Regex.times least most (marked == r.flags.swapGreed) p.regex
      .ok { r with parts := ⟨regex, p.depth + 1, true⟩ :: parts }
    else .error .nothingToRepeat
  | [] => .error .nothingToRepeat

def openGroup (r : Reader) (flags : Flags) (index : Option Nat := none) : Reader :=
  { r with
    parts := [], branches := [], flags
    groups := ⟨r.parts, r.branches, r.flags, index⟩ :: r.groups }

def openCapture (r : Reader) : Reader :=
  { r with captures := r.captures + 1 }.openGroup r.flags (some (r.captures + 1))

def closeGroup (r : Reader) : Except Fault Reader :=
  match r.groups with
  | [] => .error .unopenedGroup
  | g :: groups =>
    let body := r.body
    let regex := match g.index with
      | some i => .group i body.regex
      | none => body.regex
    .ok { r with
      parts := ⟨regex, body.depth + 1, true⟩ :: g.parts
      branches := g.branches, flags := g.flags, groups }

def addLiteral (r : Reader) (c : Char) : Reader :=
  r.add (.ofClass r.flags.alphabet (r.flags.caseMode.ofChar c))

def addPrimitive (r : Reader) (p : Primitive) : Reader :=
  match p with
  | .literal c => r.addLiteral c
  | .set cls => r.add (.ofClass r.flags.alphabet cls)
  | .look l => r.add (.look l)

def addPoint (r : Reader) : Except Fault Reader :=
  if !r.flags.unicode then .error .matchesNonText
  else if r.flags.dotAll then .ok (r.add (.set .unicode .all))
  else if r.flags.anyLineEnd then
    .ok (r.add (.set .unicode
      ((Text.CodeRanges.span '\n' '\n').union (.span '\r' '\r')).complement))
  else .ok (r.add (.set .unicode (Text.CodeRanges.span '\n' '\n').complement))

def addStart (r : Reader) : Reader :=
  r.add (.look (if !r.flags.multiLine then .textStart
    else if r.flags.anyLineEnd then .lineStartAny else .lineStart))

def addEnd (r : Reader) : Reader :=
  r.add (.look (if !r.flags.multiLine then .textEnd
    else if r.flags.anyLineEnd then .lineEndAny else .lineEnd))

end Reader

def isNameStart (c : Char) : Bool :=
  c == '_' || c.isAlpha || (128 ≤ c.toNat && Text.alphabetic.contains c)

/-- Whether a character can be part of the name of a group after its first character. -/
def isNameChar (c : Char) : Bool :=
  isNameStart c || c == '.' || c == '[' || c == ']' || c.isDigit
    || (128 ≤ c.toNat && Text.numeric.contains c)

/-- Read the name of a group up to its closing angle bracket, and open the group. -/
def readNamedGroup (r : Reader) (cs : List Char) : Except Fault (Reader × List Char) :=
  let name := cs.takeWhile (· != '>')
  match name, cs.dropWhile (· != '>') with
  | c :: tail, '>' :: rest =>
    if isNameStart c && tail.all isNameChar then
      let name := String.ofList name
      if r.names.contains name then .error .duplicateGroupName
      else
        .ok ({ r.openCapture with names := name :: r.names }, rest)
    else .error .badGroupName
  | _, _ => .error .badGroupName

/-- Read what follows an opening parenthesis: a name, flags, or nothing special. -/
def readGroup (r : Reader) (cs : List Char) : Except Fault (Reader × List Char) :=
  match r.flags.skip cs with
  | '?' :: '=' :: _ | '?' :: '!' :: _ | '?' :: '<' :: '=' :: _ | '?' :: '<' :: '!' :: _ =>
    .error .lookAround
  | '?' :: 'P' :: '<' :: rest => readNamedGroup r rest
  | '?' :: '<' :: rest => readNamedGroup r rest
  | '?' :: rest =>
    match r.flags.read [] rest with
    | .error e => .error e
    | .ok (flags, ends, some?, rest) =>
      if ends = ':' then .ok (r.openGroup flags, rest)
      else if some? then
        .ok ({ r with flags, parts := ⟨.empty, 0, false⟩ :: r.parts }, rest)
      else .error .nothingToRepeat
  | rest => .ok (r.openCapture, rest)

/-- The number that decimal digits write, with blanks around it; `none` without digits. -/
def readCount (f : Flags) (cs : List Char) : Except Fault (Option Nat × List Char) :=
  let (ds, rest) := f.collect Char.isDigit (cs.dropWhile Text.isBlank)
  let rest := f.skip (rest.dropWhile Text.isBlank)
  if ds.isEmpty then .ok (none, rest)
  else
    let n := ds.foldl (fun n c => 10 * n + (c.toNat - 48)) 0
    if n < Nat.pow 2 32 then .ok (some n, rest) else .error .greatCount

/-- Read the counts of a repetition after its opening brace, past its closing brace. -/
def readCounts (f : Flags) (cs : List Char) :
    Except Fault (Nat × Option Nat × List Char) := do
  let (least, cs) ← readCount f (f.skip cs)
  let (most, cs) ← match cs with
    | ',' :: cs =>
      match f.skip cs with
      | '\x7d' :: rest => .ok (none, '\x7d' :: rest)
      | cs =>
        match ← readCount f cs with
        | (some most, cs) => .ok (some most, cs)
        | (none, _) => .error .missingCount
    | cs => .ok (least, cs)
  match least, cs with
  | _, [] => .error .unclosedCount
  | none, _ => .error .missingCount
  | some least, '\x7d' :: rest =>
    if most.all (least ≤ ·) then .ok (least, most, rest) else .error .reversedCount
  | _, _ => .error .unclosedCount

/-- Whether the mark of a lazy repetition follows, and what comes after it. -/
def readMark (cs : List Char) : Bool × List Char :=
  match cs with
  | '?' :: rest => (true, rest)
  | cs => (false, cs)

/-- Repeat the last part of a pattern, with the greediness that a mark may tell. -/
def readRepetition (r : Reader) (least : Nat) (most : Option Nat) (cs : List Char) :
    Except Fault (Reader × List Char) :=
  let (marked, rest) := readMark cs
  (r.repeatLast least most marked).map (·, rest)

def readPart (r : Reader) (c : Char) (cs : List Char) : Except Fault (Reader × List Char) :=
  match c with
  | '(' => readGroup r cs
  | ')' => (r.closeGroup).map (·, cs)
  | '|' => .ok ({ r with parts := [], branches := r.branch :: r.branches }, cs)
  | '[' =>
    match readClass r.flags cs with
    | .error e => .error e
    | .ok (item, rest) => .ok (r.add (.ofClass r.flags.alphabet item.cls) item.depth, rest)
  | '?' => readRepetition r 0 (some 1) cs
  | '*' => readRepetition r 0 none cs
  | '+' => readRepetition r 1 none cs
  | '\x7b' =>
    match readCounts r.flags cs with
    | .error e => .error e
    | .ok (least, most, rest) => readRepetition r least most (r.flags.skip rest)
  | '\\' =>
    match readEscape r.flags cs with
    | .error e => .error e
    | .ok (p, rest) => .ok (r.addPrimitive p, rest)
  | '.' => (r.addPoint).map (·, cs)
  | '^' => .ok (r.addStart, cs)
  | '$' => .ok (r.addEnd, cs)
  | c => .ok (r.addLiteral c, cs)

/-- Read parts until the pattern ends. Every part takes a character at least. -/
def readParts : (bound : Nat) → Reader → List Char → Except Fault Reader
  | 0, r, _ => .ok r
  | bound + 1, r, cs =>
    match r.flags.skip cs with
    | [] => .ok r
    | c :: cs =>
      match readPart r c cs with
      | .error e => .error e
      | .ok (r, cs) => readParts bound r cs

def depthLimit : Nat := 250

def parse (text : List Char) : Except Fault Regex :=
  match readParts (text.length + 1) {} text with
  | .error e => .error e
  | .ok r =>
    if !r.groups.isEmpty then .error .unclosedGroup
    else if depthLimit < r.body.depth then .error .tooDeep
    else if r.body.regex.fits then .ok r.body.regex
    else .error .tooLarge

end ScriptedDb.Pattern
