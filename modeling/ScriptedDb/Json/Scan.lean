import ScriptedDb.Json.Failure
import ScriptedDb.Number.Numeral

/-! The lexical part of reading JSON. A scanner gives a value and what is left of the text, or
stops; it skips blanks only where it says so. -/

namespace ScriptedDb.Json

/-- What scanning gives: a value and the rest of the text, or the reason to stop. -/
abbrev Scanned (α : Type) := Except Stop (α × List Char)

def isBlank (c : Char) : Bool :=
  c == ' ' || c == '\n' || c == '\t' || c == '\r'

def skipBlank (s : List Char) : List Char :=
  s.dropWhile isBlank

def word : List Char → List Char → Except Stop (List Char)
  | [], s => .ok s
  | _ :: _, [] => .error ⟨.endInValue, 0⟩
  | w :: ws, c :: s => if c = w then word ws s else .error (.at .expectedIdent (c :: s))

/-- The 16-bit unit that four hexadecimal digits write. Fewer than four bytes of text are an end of
text, whatever they are. -/
def hexUnit (s : List Char) : Except Stop Nat :=
  match (s.take 4).mapM Text.CodeRanges.hexDigit? with
  | some [a, b, c, d] => .ok (((a * 16 + b) * 16 + c) * 16 + d)
  | _ =>
    if byteCount s < 4 then .error ⟨.endInString, 0⟩
    else .error ⟨.invalidEscape, byteCount s - 4⟩

def isHighSurrogate (n : Nat) : Bool :=
  0xD800 ≤ n && n ≤ 0xDBFF

def isLowSurrogate (n : Nat) : Bool :=
  0xDC00 ≤ n && n ≤ 0xDFFF

/-- The second escape of a surrogate pair. -/
def lowSurrogate (s : List Char) : Except Stop Nat :=
  match s with
  | '\\' :: 'u' :: r =>
    match hexUnit r with
    | .error e => .error e
    | .ok n => if isLowSurrogate n then .ok n else .error (.before .loneSurrogate (r.drop 4))
  | ['\\'] | [] => .error ⟨.endInString, 0⟩
  | '\\' :: r => .error (.at .endOfHexEscape r)
  | _ => .error (.at .endOfHexEscape s)

/-- The character that a unit stands for, with the number of characters of its escape after the
backslash. A high surrogate takes a second escape. -/
def unicodeEscape (s : List Char) : Except Stop (Char × Nat) :=
  match hexUnit s with
  | .error e => .error e
  | .ok n =>
    if isLowSurrogate n then .error (.before .loneSurrogate (s.drop 4))
    else if isHighSurrogate n then
      match lowSurrogate (s.drop 4) with
      | .error e => .error e
      | .ok m => .ok (Char.ofNat (0x10000 + (n - 0xD800) * 0x400 + (m - 0xDC00)), 11)
    else .ok (Char.ofNat n, 5)

def letterEscape? (c : Char) : Option Char :=
  if c = '"' ∨ c = '\\' ∨ c = '/' then some c
  else if c = 'b' then some '\x08'
  else if c = 'f' then some '\x0c'
  else if c = 'n' then some '\n'
  else if c = 'r' then some '\r'
  else if c = 't' then some '\t'
  else none

/-- The character that an escape stands for, with the number of its characters after the
backslash. -/
def readEscape (s : List Char) : Except Stop (Char × Nat) :=
  match s with
  | [] => .error ⟨.endInString, 0⟩
  | 'u' :: r => unicodeEscape r
  | c :: _ =>
    match letterEscape? c with
    | some d => .ok (d, 1)
    | none => .error (.at .invalidEscape s)

def readString (s : List Char) : Scanned (List Char) :=
  match s with
  | [] => .error ⟨.endInString, 0⟩
  | c :: r =>
    if c = '"' then .ok ([], r)
    else if c = '\\' then
      match readEscape r with
      | .error e => .error e
      | .ok (d, used) =>
        match readString (r.drop used) with
        | .error e => .error e
        | .ok (cs, rest) => .ok (d :: cs, rest)
    else if c.toNat < 0x20 then .error (.at .controlCharacter s)
    else
      match readString r with
      | .error e => .error e
      | .ok (cs, rest) => .ok (c :: cs, rest)
  termination_by s.length
  decreasing_by all_goals grind

/-- Take digits while the number they write, after `n`, is at most `limit`: that number, and how
many digits were taken. -/
def gather (limit n : Nat) : List Char → Nat × Nat
  | [] => (n, 0)
  | c :: cs =>
    let m := 10 * n + Numeral.digit c
    if m ≤ limit then ((gather limit m cs).1, (gather limit m cs).2 + 1) else (n, 0)

/-- The floating-point number nearest to a power of ten. -/
def powerOfTen (k : Nat) : Binary64 :=
  Binary64.ofNat (Nat.pow 10 k)

/-- Multiply by, or divide by, a power of ten, each step rounded; `none` when the product is too
great. An exponent below -308 takes several steps. -/
def scale (x : Binary64) (e : Int) : Option Binary64 :=
  if e.natAbs ≤ 308 then
    if 0 ≤ e then
      let y := x.mul (powerOfTen e.natAbs)
      if y.isInfinite then none else some y
    else some (x.div (powerOfTen e.natAbs))
  else if x.isZero then some x
  else if 0 ≤ e then none
  else scale (x.div (powerOfTen 308)) (e + 308)
  termination_by e.natAbs

/-- The number `± significand · 10 ^ e`, read before the rest of the text. -/
def floatOfParts (negative : Bool) (significand : Nat) (e : Int) (rest : List Char) :
    Scanned Number :=
  match scale (Binary64.ofNat significand) e with
  | none => .error (.before .numberOutOfRange rest)
  | some x => .ok (.float (if negative then x.neg else x), rest)

/-- Read an exponent after its letter. One that does not fit in 32 bits makes the number zero, or
too great. -/
def readExponent (negative : Bool) (significand : Nat) (e : Int) (s : List Char) :
    Scanned Number :=
  let (down, s) := Numeral.sign s
  let run := s.takeWhile Numeral.isDigit
  let rest := s.dropWhile Numeral.isDigit
  if run.isEmpty then .error (if s.isEmpty then ⟨.endInValue, 0⟩ else .at .invalidNumber s)
  else
    let (n, taken) := gather (Nat.pow 2 31 - 1) 0 run
    if taken < run.length then
      if significand ≠ 0 ∧ !down then .error (.before .numberOutOfRange (s.drop (taken + 1)))
      else .ok (.float (.ofParts negative 0), rest)
    else floatOfParts negative significand (if down then e - n else e + n) rest

def isExponentMark (c : Char) : Bool :=
  c == 'e' || c == 'E'

/-- Read a fraction after its point. Digits that no longer fit in the significand are dropped. -/
def readFraction (negative : Bool) (significand : Nat) (e : Int) (s : List Char) :
    Scanned Number :=
  let run := s.takeWhile Numeral.isDigit
  let rest := s.dropWhile Numeral.isDigit
  if run.isEmpty then .error (if s.isEmpty then ⟨.endInValue, 0⟩ else .at .invalidNumber s)
  else
    let (significand, taken) := gather (Nat.pow 2 64 - 1) significand run
    let e := e - taken
    match rest with
    | c :: r =>
      if isExponentMark c then readExponent negative significand e r
      else floatOfParts negative significand e rest
    | [] => floatOfParts negative significand e rest

/-- The number that an integer numeral writes. Zero with a minus sign, and what does not fit in 64
bits, is a floating-point number. -/
def integerOfParts (negative : Bool) (n : Nat) : Number :=
  if !negative then .integer n
  else if n = 0 ∨ Nat.pow 2 63 < n then .float (Binary64.ofNat n).neg
  else .integer (-(n : Int))

/-- Read what follows the whole digits of a number. Digits that did not fit in the significand
raise the exponent. -/
def readAfterWhole (negative : Bool) (significand extra : Nat) (s : List Char) : Scanned Number :=
  match s with
  | '.' :: r => readFraction negative significand extra r
  | c :: r =>
    if isExponentMark c then readExponent negative significand extra r
    else if extra = 0 then .ok (integerOfParts negative significand, s)
    else floatOfParts negative significand extra s
  | [] =>
    if extra = 0 then .ok (integerOfParts negative significand, s)
    else floatOfParts negative significand extra s

/-- Read a number after its minus sign, if it has one. A zero is not followed by digits. -/
def readNumber (negative : Bool) (s : List Char) : Scanned Number :=
  match s with
  | [] => .error ⟨.endInValue, 0⟩
  | c :: r =>
    if c = '0' then
      match r with
      | d :: _ =>
        if Numeral.isDigit d then .error (.at .invalidNumber r)
        else readAfterWhole negative 0 0 r
      | [] => readAfterWhole negative 0 0 r
    else if Numeral.isDigit c then
      let run := s.takeWhile Numeral.isDigit
      let (significand, taken) := gather (Nat.pow 2 64 - 1) 0 run
      readAfterWhole negative significand (run.length - taken) (s.dropWhile Numeral.isDigit)
    else .error (.at .invalidNumber s)

end ScriptedDb.Json
