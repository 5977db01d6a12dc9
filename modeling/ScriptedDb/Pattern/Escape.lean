import ScriptedDb.Pattern.Flags
import ScriptedDb.Pattern.Property
import ScriptedDb.Pattern.Syntax
import ScriptedDb.Pattern.Table.WordCharacter

namespace ScriptedDb.Pattern

inductive Primitive where
  | literal (c : Char)
  | set (cls : CharClass)
  | look (condition : Look)

/-- Characters that mean something in some place of a pattern. -/
def isMeta (c : Char) : Bool :=
  "\\.+*?()|[]\x7b\x7d^$#&-~".toList.contains c

/-- Characters that may be escaped although they need not be: ASCII, but no letters, digits or
angle brackets. -/
def isEscapable (c : Char) : Bool :=
  isMeta c || (c.toNat < 128 && !c.isAlphanum && c != '<' && c != '>')

def digitSet (unicode : Bool) : CharClass :=
  if unicode then decimalDigits else .ofHex ["30-39"]

def blankSet (unicode : Bool) : CharClass :=
  .ofHex [if unicode then "9-D 20 85 A0 1680 2000-200A 2028-2029 202F 205F 3000" else "9-D 20"]

def wordSet (unicode : Bool) : CharClass :=
  if unicode then wordCharacters else .ofHex ["30-39 41-5A 5F 61-7A"]

/-- A set that a letter names, or its complement. Outside Unicode the complement would match bytes
that are no text. -/
def namedByLetter (f : Flags) (negated : Bool) (cls : CharClass) : Except Fault Primitive :=
  if negated && !f.unicode then .error .matchesNonText else .ok (.set (cls.negateIf negated))

def charOf? (n : Nat) : Option Char :=
  if n.isValidChar then some (Char.ofNat n) else none

/-- The number that hexadecimal digits write, unless one is no digit. -/
def hexValue? (ds : List Char) : Option Nat :=
  ds.foldlM (fun n c => (Text.CodeRanges.hexDigit? c).map (16 * n + ·)) 0

/-- Read a number of hexadecimal digits; a verbose pattern may have blanks between them. -/
def readHexDigits (f : Flags) : (count value : Nat) → List Char → Except Fault (Nat × List Char)
  | 0, value, cs => .ok (value, cs)
  | count + 1, value, cs =>
    match f.skip cs with
    | [] => .error .unfinishedEscape
    | c :: cs =>
      match Text.CodeRanges.hexDigit? c with
      | some d => readHexDigits f count (16 * value + d) cs
      | none => .error .badCodePoint

/-- Read a code point after its letter: digits in braces, or as many as the letter asks for. Two
digits without braces name a byte where the pattern is not one of Unicode, and a byte past ASCII
is no text. -/
def readHex (f : Flags) (count : Nat) (cs : List Char) : Except Fault (Primitive × List Char) :=
  let literal (n : Nat) (rest : List Char) : Except Fault (Primitive × List Char) :=
    match charOf? n with
    | some c => .ok (.literal c, rest)
    | none => .error .badCodePoint
  match f.skip cs with
  | '\x7b' :: cs =>
    let (ds, rest) := f.collect (· != '\x7d') (f.skip cs)
    match rest, hexValue? ds with
    | [], _ => .error .unfinishedEscape
    | _ :: rest, some n => if ds.isEmpty then .error .badCodePoint else literal n rest
    | _, none => .error .badCodePoint
  | cs =>
    match readHexDigits f count 0 cs with
    | .ok (n, rest) =>
      if count = 2 ∧ !f.unicode ∧ 128 ≤ n then .error .matchesNonText else literal n rest
    | .error e => .error e

/-- Read the name of a property after its letter: a name in braces, or a letter. Case is ignored
before the set is negated. -/
def readProperty (f : Flags) (negated : Bool) (cs : List Char) :
    Except Fault (Primitive × List Char) :=
  let property (found : Option (Bool × CharClass)) (rest : List Char) :
      Except Fault (Primitive × List Char) :=
    if !f.unicode then .error .needsUnicode
    else
      match found with
      | some (differs, cls) =>
        .ok (.set ((f.caseMode.close cls).negateIf (negated != differs)), rest)
      | none => .error .unknownProperty
  match f.skip cs with
  | [] => .error .unfinishedEscape
  | '\x7b' :: cs =>
    match f.collect (· != '\x7d') (f.skip cs) with
    | (_, []) => .error .unfinishedEscape
    | (name, _ :: rest) => property (propertyOf? name) rest
  | c :: rest =>
    if c = '\\' then .error .unknownProperty
    else property ((namedSet? [c]).map (false, ·)) rest

/-- Read what may follow the letter of a word boundary: the name of a kind in braces. Braces that
hold no letters are left to count repetitions. -/
def readBoundary (f : Flags) (cs : List Char) : Except Fault (Primitive × List Char) :=
  let isNameChar (c : Char) : Bool := c.isAlpha || c == '-'
  match cs with
  | '\x7b' :: body =>
    match f.skip body with
    | [] => .error .unfinishedEscape
    | c :: body =>
      if !isNameChar c then .ok (.look (.wordBoundary f.unicode), cs)
      else
        match f.collect isNameChar (c :: body) with
        | (name, '\x7d' :: rest) =>
          match String.ofList name with
          | "start" => .ok (.look (.wordStart f.unicode), rest)
          | "end" => .ok (.look (.wordEnd f.unicode), rest)
          | "start-half" => .ok (.look (.wordStartHalf f.unicode), rest)
          | "end-half" => .ok (.look (.wordEndHalf f.unicode), rest)
          | _ => .error .unknownBoundary
        | _ => .error .unknownBoundary
  | cs => .ok (.look (.wordBoundary f.unicode), cs)

def readEscape (f : Flags) (cs : List Char) : Except Fault (Primitive × List Char) :=
  match cs with
  | [] => .error .unfinishedEscape
  | c :: rest =>
    if isEscapable c then .ok (.literal c, rest)
    else if c.isDigit then .error .backreference
    else
      match c with
      | 'x' => readHex f 2 rest
      | 'u' => readHex f 4 rest
      | 'U' => readHex f 8 rest
      | 'p' => readProperty f false rest
      | 'P' => readProperty f true rest
      | 'd' => (namedByLetter f false (digitSet f.unicode)).map (·, rest)
      | 'D' => (namedByLetter f true (digitSet f.unicode)).map (·, rest)
      | 's' => (namedByLetter f false (blankSet f.unicode)).map (·, rest)
      | 'S' => (namedByLetter f true (blankSet f.unicode)).map (·, rest)
      | 'w' => (namedByLetter f false (wordSet f.unicode)).map (·, rest)
      | 'W' => (namedByLetter f true (wordSet f.unicode)).map (·, rest)
      | 'a' => .ok (.literal '\x07', rest)
      | 'f' => .ok (.literal '\x0c', rest)
      | 't' => .ok (.literal '\t', rest)
      | 'n' => .ok (.literal '\n', rest)
      | 'r' => .ok (.literal '\r', rest)
      | 'v' => .ok (.literal '\x0b', rest)
      | 'A' => .ok (.look .textStart, rest)
      | 'z' => .ok (.look .textEnd, rest)
      | 'b' => readBoundary f rest
      | 'B' => .ok (.look (.notWordBoundary f.unicode), rest)
      | '<' => .ok (.look (.wordStart f.unicode), rest)
      | '>' => .ok (.look (.wordEnd f.unicode), rest)
      | _ => .error .unknownEscape

end ScriptedDb.Pattern
