import ScriptedDb.Pattern.CharClass
import ScriptedDb.Pattern.Fault
import ScriptedDb.Text.Blank

namespace ScriptedDb.Pattern

structure Flags where
  ignoreCase : Bool := false
  multiLine : Bool := false
  dotAll : Bool := false
  anyLineEnd : Bool := false
  unicode : Bool := true
  /-- Repetitions are lazy unless marked, not the other way round. -/
  swapGreed : Bool := false
  verbose : Bool := false

namespace Flags

/-- What classes are written in. -/
def alphabet (f : Flags) : Alphabet :=
  if f.unicode then .unicode else .ascii

def caseMode (f : Flags) : CaseMode :=
  if !f.ignoreCase then .exact else if f.unicode then .unicode else .ascii

def set? (f : Flags) (letter : Char) (on : Bool) : Option Flags :=
  match letter with
  | 'i' => some { f with ignoreCase := on }
  | 'm' => some { f with multiLine := on }
  | 's' => some { f with dotAll := on }
  | 'R' => some { f with anyLineEnd := on }
  | 'u' => some { f with unicode := on }
  | 'x' => some { f with verbose := on }
  | 'U' => some { f with swapGreed := on }
  | _ => none

/-- The flags that a group writes, up to the colon or parenthesis that ends them: the flags then in
force, the character that ends them, whether any was written, and the rest. `seen` holds the
letters so far; `-` turns off those after it. -/
def read (f : Flags) (seen : List Char) :
    List Char → Except Fault (Flags × Char × Bool × List Char)
  | [] => .error .badFlags
  | c :: cs =>
    if c = ':' ∨ c = ')' then
      if seen.head? = some '-' then .error .badFlags else .ok (f, c, !seen.isEmpty, cs)
    else if seen.contains c then .error .badFlags
    else if c = '-' then read f (c :: seen) cs
    else
      match f.set? c (!seen.contains '-') with
      | some f => read f (c :: seen) cs
      | none => .error .badFlags

end Flags

/-- Skip blanks, and comments from a number sign to the end of its line. -/
def skipComments : (inComment : Bool) → List Char → List Char
  | _, [] => []
  | true, c :: cs => skipComments (c != '\n') cs
  | false, c :: cs =>
    if Text.isBlank c then skipComments false cs
    else if c = '#' then skipComments true cs
    else c :: cs

def Flags.skip (f : Flags) (cs : List Char) : List Char :=
  if f.verbose then skipComments false cs else cs

/-- The character that a hyphen in a class counts as standing before. In a verbose pattern blanks
are passed over, and one number sign among them; what follows that sign counts although a comment
hides it. If nothing else follows, the very next character counts. -/
def Flags.afterHyphen? (f : Flags) (cs : List Char) : Option Char :=
  if f.verbose then
    match cs.dropWhile Text.isBlank with
    | [] => cs.head?
    | '#' :: rest => (rest.dropWhile Text.isBlank).head?.or cs.head?
    | c :: _ => some c
  else cs.head?

theorem length_skipComments_le (inComment : Bool) (cs : List Char) :
    (skipComments inComment cs).length ≤ cs.length := by
  fun_induction skipComments inComment cs <;> grind

theorem Flags.length_skip_le (f : Flags) (cs : List Char) : (f.skip cs).length ≤ cs.length := by
  grind [Flags.skip, length_skipComments_le]

/-- Collect characters while a test holds; a verbose pattern may have blanks between them. -/
def Flags.collect (f : Flags) (test : Char → Bool) : List Char → List Char × List Char
  | [] => ([], [])
  | c :: cs =>
    if test c then
      let (taken, rest) := f.collect test (f.skip cs)
      (c :: taken, rest)
    else ([], c :: cs)
  termination_by cs => cs.length
  decreasing_by grind [Flags.length_skip_le]

end ScriptedDb.Pattern
