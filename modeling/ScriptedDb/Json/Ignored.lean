import ScriptedDb.Json.Parser

/-! Skipping a JSON value. It may nest to any depth, so instead of recursion there is a stack of the
arrays and objects that are open. -/

namespace ScriptedDb.Json

/-- Skip a string up to and including its closing quote. A control character stops it before the
character. -/
def skipString (s : List Char) : Except Stop (List Char) :=
  match s with
  | [] => .error ⟨.endInString, 0⟩
  | c :: r =>
    if c = '"' then .ok r
    else if c = '\\' then
      match r with
      | [] => .error ⟨.endInString, 0⟩
      | d :: r' =>
        if d = 'u' then
          match hexUnit r' with
          | .error e => .error e
          | .ok _ => skipString (r'.drop 4)
        else if (letterEscape? d).isSome then skipString r'
        else .error (.at .invalidEscape r)
    else if c.toNat < 0x20 then .error (.before .controlCharacter s)
    else skipString r
  termination_by s.length
  decreasing_by all_goals grind

def skipDigits (s : List Char) : Except Stop (List Char) :=
  match s with
  | [] => .error ⟨.invalidNumber, 0⟩
  | c :: _ =>
    if Numeral.isDigit c then .ok (s.dropWhile Numeral.isDigit)
    else .error (.at .invalidNumber s)

def skipExponent (s : List Char) : Except Stop (List Char) :=
  match s with
  | c :: r =>
    if isExponentMark c then skipDigits (Numeral.sign r).2 else .ok s
  | [] => .ok s

def skipAfterWhole (s : List Char) : Except Stop (List Char) :=
  match s with
  | '.' :: r =>
    match skipDigits r with
    | .error e => .error e
    | .ok s => skipExponent s
  | _ => skipExponent s

def skipNumber (s : List Char) : Except Stop (List Char) :=
  match s with
  | '0' :: r =>
    match r with
    | d :: _ => if Numeral.isDigit d then .error (.at .invalidNumber r) else skipAfterWhole r
    | [] => .ok r
  | _ =>
    match skipDigits s with
    | .error e => .error e
    | .ok s => skipAfterWhole s

inductive Bracket where
  | list
  | object
  deriving DecidableEq

inductive Skipping where
  /-- A value begins here. -/
  | value
  /-- Inside the innermost open bracket, after a value. -/
  | afterValue
  /-- Just inside the innermost open bracket. -/
  | opened

def Bracket.close : Bracket → Char
  | .list => ']'
  | .object => '\x7d'

/-- Skip to the next value inside a bracket: at once in an array, past a key and a colon in an
object. -/
def skipKey (bracket : Bracket) (s : List Char) : Except Stop (List Char) :=
  match bracket with
  | .list => .ok s
  | .object =>
    match skipBlank s with
    | [] => .error ⟨.endInObject, 0⟩
    | c :: r =>
      if c = '"' then
        match skipString r with
        | .error e => .error e
        | .ok s => colon s
      else .error (.at .keyNotString (c :: r))

/-- Skip one value that is no array or object, or go inside the bracket that it opens. -/
def skipScalar (s : List Char) : Except Stop (Option Bracket × List Char) :=
  match skipBlank s with
  | [] => .error ⟨.endInValue, 0⟩
  | c :: r =>
    if c = 'n' then (word ['u', 'l', 'l'] r).map (none, ·)
    else if c = 't' then (word ['r', 'u', 'e'] r).map (none, ·)
    else if c = 'f' then (word ['a', 'l', 's', 'e'] r).map (none, ·)
    else if c = '-' then (skipNumber r).map (none, ·)
    else if Numeral.isDigit c then (skipNumber (c :: r)).map (none, ·)
    else if c = '"' then (skipString r).map (none, ·)
    else if c = '[' then .ok (some .list, r)
    else if c = '\x7b' then .ok (some .object, r)
    else .error (.at .expectedValue (c :: r))

/-- Skip until no bracket is open. Every second step takes a character at least, so a bound of
twice the length of the text is never reached. -/
def skipLoop : (bound : Nat) → Skipping → List Bracket → List Char → Except Stop (List Char)
  | 0, _, _, s => .ok s
  | bound + 1, .value, stack, s =>
    match skipScalar s with
    | .error e => .error e
    | .ok (none, s) => skipLoop bound .afterValue stack s
    | .ok (some bracket, s) => skipLoop bound .opened (bracket :: stack) s
  | _ + 1, _, [], s => .ok s
  | bound + 1, place, bracket :: stack, s =>
    let comma := match place with
      | .afterValue => true
      | _ => false
    match skipBlank s with
    | [] =>
      .error ⟨match bracket with | .list => .endInList | .object => .endInObject, 0⟩
    | c :: r =>
      if c = bracket.close then skipLoop bound .afterValue stack r
      else if comma && c != ',' then
        .error (.at (match bracket with
          | .list => .expectedListComma
          | .object => .expectedObjectComma) (c :: r))
      else
        match skipKey bracket (if comma then r else c :: r) with
        | .error e => .error e
        | .ok s => skipLoop bound .value (bracket :: stack) s

def skipValue (s : List Char) : Except Stop (List Char) :=
  skipLoop (2 * s.length + 2) .value [] s

end ScriptedDb.Json
