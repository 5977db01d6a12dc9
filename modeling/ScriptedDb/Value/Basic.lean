import ScriptedDb.Json.Printer
import ScriptedDb.Number.Rounding
import ScriptedDb.Number.FloatText
import ScriptedDb.Text.Quoted

namespace ScriptedDb

/-- A database value. Floating-point numbers are kept by their bits, and a JSON value is kept as
the text it was given, which need not be well formed. -/
inductive Value where
  | text (s : String)
  | integer (i : Int64)
  | float (x : Binary64)
  | boolean (b : Bool)
  | blob (bytes : List UInt8)
  | timestamp (t : Int64)
  | json (s : String)
  | null
  deriving DecidableEq, Inhabited

namespace Value

def typeName : Value → String
  | .text _ => "text"
  | .integer _ => "integer"
  | .float _ => "float"
  | .boolean _ => "boolean"
  | .blob _ => "blob"
  | .timestamp _ => "timestamp"
  | .json _ => "json"
  | .null => "null"

def isNull : Value → Bool
  | .null => true
  | _ => false

def byteHex (b : UInt8) : List Char :=
  [Nat.digitChar (b.toNat / 16), Nat.digitChar (b.toNat % 16)]

def render : Value → String
  | .text s => Text.quoted s
  | .integer i => toString i.toInt
  | .float x => FloatLayout.shown.text x
  | .boolean b => toString b
  | .blob bytes => "x'" ++ String.ofList (bytes.flatMap byteHex) ++ "'"
  | .timestamp t => "ts(" ++ toString t.toInt ++ ")"
  | .json s => "json(" ++ s ++ ")"
  | .null => "NULL"

def debug : Value → String
  | .text s => s!"Text({Text.quoted s})"
  | .integer i => s!"Integer({i.toInt})"
  | .float x => s!"Float({FloatLayout.shown.text x})"
  | .boolean b => s!"Boolean({b})"
  | .blob bytes => "Blob([" ++ ", ".intercalate (bytes.map fun b => toString b.toNat) ++ "])"
  | .timestamp t => s!"Timestamp({t.toInt})"
  | .json s => s!"Json({Text.quoted s})"
  | .null => "Null"

/-- The text with the values from an index on, of which only the one at index 0 has no comma before
it. -/
def renderFrom (out : String) : Nat → List Value → String
  | _, [] => out
  | index, v :: vs =>
    renderFrom ((if 0 < index then out ++ ", " else out) ++ v.render) (index + 1) vs

/-- A list of values, as messages show the arguments of a call. -/
def renderList (vs : List Value) : String :=
  renderFrom "[" 0 vs ++ "]"

/-- A value that may be missing, which null stands for. -/
def ofOption : Option Value → Value
  | some v => v
  | none => .null

/-- The value that a JSON document stands for. Integers that do not fit in 64 bits with a sign are
rounded to floating-point numbers; arrays and objects are kept as text. -/
def ofJson : Json → Value
  | .null => .null
  | .bool b => .boolean b
  | .number (.integer i) =>
    if i ≤ Int64.maxValue.toInt then .integer (Int64.ofInt i) else .float (.ofInt i)
  | .number (.float x) => .float x
  | .string s => .text s
  | j => .json j.text

end Value

end ScriptedDb
