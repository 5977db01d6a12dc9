import ScriptedDb.Json.Printer
import ScriptedDb.Text.Quoted

/-! A reader that stops says how many bytes it left unread, and `Stop.locate` turns that count into
a line and a column of the whole text. -/

namespace ScriptedDb.Json

/-- What stood where something else was expected. -/
inductive Found where
  | null
  | bool (b : Bool)
  | integer (i : Int)
  | float (x : Binary64)
  | string (s : String)
  | sequence
  | map
  | unitVariant

def Found.text : Found → String
  | .null => "null"
  | .bool b => s!"boolean `{b}`"
  | .integer i => s!"integer `{i}`"
  | .float x => s!"floating point `{FloatLayout.json.text x}`"
  | .string s => "string " ++ Text.quoted s
  | .sequence => "sequence"
  | .map => "map"
  | .unitVariant => "unit variant"

inductive Cause where
  | endInValue
  | endInList
  | endInObject
  | endInString
  | expectedValue
  | expectedIdent
  | expectedColon
  | expectedListComma
  | expectedObjectComma
  | invalidNumber
  | numberOutOfRange
  | invalidEscape
  | controlCharacter
  | loneSurrogate
  | endOfHexEscape
  | keyNotString
  | trailingComma
  | trailingCharacters
  | recursionLimit
  | wrongType (found : Found) (expected : String)
  | wrongValue (found : Found) (expected : String)
  | missingField (name : String)
  | duplicateField (name : String)
  | unknownVariant (name : String) (known : List String)
  | emptyStruct (expected : String)

def Cause.message : Cause → String
  | .endInValue => "EOF while parsing a value"
  | .endInList => "EOF while parsing a list"
  | .endInObject => "EOF while parsing an object"
  | .endInString => "EOF while parsing a string"
  | .expectedValue => "expected value"
  | .expectedIdent => "expected ident"
  | .expectedColon => "expected `:`"
  | .expectedListComma => "expected `,` or `]`"
  | .expectedObjectComma => "expected `,` or `\x7d`"
  | .invalidNumber => "invalid number"
  | .numberOutOfRange => "number out of range"
  | .invalidEscape => "invalid escape"
  | .controlCharacter => "control character (\\u0000-\\u001F) found while parsing a string"
  | .loneSurrogate => "lone leading surrogate in hex escape"
  | .endOfHexEscape => "unexpected end of hex escape"
  | .keyNotString => "key must be a string"
  | .trailingComma => "trailing comma"
  | .trailingCharacters => "trailing characters"
  | .recursionLimit => "recursion limit exceeded"
  | .wrongType found expected => s!"invalid type: {found.text}, expected {expected}"
  | .wrongValue found expected => s!"invalid value: {found.text}, expected {expected}"
  | .missingField name => s!"missing field `{name}`"
  | .duplicateField name => s!"duplicate field `{name}`"
  | .unknownVariant name known =>
    s!"unknown variant `{name}`, expected one of "
      ++ ", ".intercalate (known.map fun k => s!"`{k}`")
  | .emptyStruct expected => s!"invalid length 0, expected {expected}"

/-- Where a reader gave up: the cause and the number of bytes it left unread. -/
structure Stop where
  cause : Cause
  unread : Nat

def byteCount (cs : List Char) : Nat :=
  cs.foldr (fun c n => c.utf8Size + n) 0

def Stop.before (cause : Cause) (s : List Char) : Stop :=
  ⟨cause, byteCount s⟩

/-- Give up at the first byte of the rest `s` of the text, which counts as read. -/
def Stop.at (cause : Cause) (s : List Char) : Stop :=
  ⟨cause, byteCount s - 1⟩

/-- A failure in a whole text: lines count from 1, columns are the bytes read of the line. -/
structure Failure where
  cause : Cause
  line : Nat
  column : Nat

def Failure.message (f : Failure) : String :=
  s!"{f.cause.message} at line {f.line} column {f.column}"

/-- The line and column reached after a number of bytes, from a given line and column. A count that
ends inside a character adds the bytes read of it to the column. -/
def advance : (bytes : Nat) → List Char → (line column : Nat) → Nat × Nat
  | _, [], line, column => (line, column)
  | bytes, c :: cs, line, column =>
    if bytes < c.utf8Size then (line, column + bytes)
    else if c = '\n' then advance (bytes - 1) cs (line + 1) 0
    else advance (bytes - c.utf8Size) cs line (column + c.utf8Size)

def Stop.locate (stop : Stop) (text : List Char) : Failure :=
  let (line, column) := advance (byteCount text - stop.unread) text 1 0
  ⟨stop.cause, line, column⟩

end ScriptedDb.Json
