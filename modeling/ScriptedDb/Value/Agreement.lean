import ScriptedDb.Value.Basic
import ScriptedDb.Json.Parser
import ScriptedDb.Text.Utf8

/-! Whether a declared value and the value of a call describe the same datum. Where the question has
no answer the comparison fails. -/

namespace ScriptedDb

inductive Incomparable.Reason where
  | inexactInteger (i : Int64)
  | notUtf8 (failure : Text.Utf8.Failure)
  | invalidJson (text : String) (failure : Json.Failure)
  /-- A reason given by a custom matcher. -/
  | custom (text : String)

def Incomparable.Reason.message : Incomparable.Reason → String
  | .inexactInteger i => s!"integer {i.toInt} has no exact float representation"
  | .notUtf8 failure => s!"blob is not utf-8: {failure.message}"
  | .invalidJson text failure => s!"invalid json '{text}': {failure.message}"
  | .custom text => text

/-- A comparison that could not be carried out: the names of the two types, and why. -/
structure Incomparable where
  expected : String
  actual : String
  reason : Incomparable.Reason

namespace Incomparable

def message (e : Incomparable) : String :=
  s!"cannot compare {e.expected} with {e.actual}: {e.reason.message}"

def debug (e : Incomparable) : String :=
  "ConversionError \x7b expected: " ++ Text.quoted e.expected ++ ", actual: "
    ++ Text.quoted e.actual ++ ", reason: " ++ Text.quoted e.reason.message ++ " \x7d"

end Incomparable

namespace Value

/-- The greatest bound under which floating-point numbers represent every integer. -/
def exactIntegerBound : Nat := Nat.pow 2 53

/-- Whether two texts are JSON for the same document. -/
def jsonAgrees (a b : String) : Except Incomparable.Reason Bool :=
  match Json.parse a with
  | .error failure => .error (.invalidJson a failure)
  | .ok x =>
    match Json.parse b with
    | .error failure => .error (.invalidJson b failure)
    | .ok y => .ok (x.same y)

/-- Whether an integer and a floating-point number are numerically equal. Integers past the bound
are refused, as some of them have no floating-point number of their own; the others are converted
without rounding. -/
def integerAgrees (i : Int64) (x : Binary64) : Except Incomparable.Reason Bool :=
  if exactIntegerBound < i.toInt.natAbs then .error (.inexactInteger i)
  else .ok ((Binary64.ofInt i.toInt).eqv x)

/-- Whether an integer encodes a boolean: 0 is false and 1 is true. -/
def booleanAgrees (b : Bool) (i : Int64) : Bool :=
  if i = 0 then !b else if i = 1 then b else false

def bytesAgree (s : String) (bytes : List UInt8) : Except Incomparable.Reason Bool :=
  match Text.Utf8.decode bytes with
  | .error failure => .error (.notUtf8 failure)
  | .ok cs => .ok (cs == s.toList)

/-- Whether a declared value agrees with the value of a call, or why there is no answer. -/
def agreement (expected actual : Value) : Except Incomparable.Reason Bool :=
  match expected, actual with
  | .null, .null => .ok true
  | .null, _ => .ok false
  | _, .null => .ok false
  | .json a, .json b => jsonAgrees a b
  | .json a, .text b => jsonAgrees a b
  | .text b, .json a => jsonAgrees a b
  | .integer a, .timestamp b => .ok (a == b)
  | .timestamp a, .integer b => .ok (a == b)
  | .integer i, .float x => integerAgrees i x
  | .float x, .integer i => integerAgrees i x
  | .boolean b, .integer i => .ok (booleanAgrees b i)
  | .integer i, .boolean b => .ok (booleanAgrees b i)
  | .text s, .blob bytes => bytesAgree s bytes
  | .blob bytes, .text s => bytesAgree s bytes
  | .float x, .float y => .ok (x.eqv y)
  | a, b => .ok (a == b)

/-- Whether a declared value agrees with the value of a call; a failure names both types. -/
def agrees (expected actual : Value) : Except Incomparable Bool :=
  match agreement expected actual with
  | .ok b => .ok b
  | .error reason => .error ⟨expected.typeName, actual.typeName, reason⟩

theorem agrees_eq_ok_iff {a b : Value} {same : Bool} :
    a.agrees b = .ok same ↔ agreement a b = .ok same := by
  rw [agrees]
  cases agreement a b <;> simp

theorem agrees_eq_error_iff {a b : Value} {e : Incomparable} :
    a.agrees b = .error e ↔
      ∃ reason, agreement a b = .error reason ∧ e = ⟨a.typeName, b.typeName, reason⟩ := by
  rw [agrees]
  cases agreement a b <;> simp [eq_comm]

end Value

end ScriptedDb
