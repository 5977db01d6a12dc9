import ScriptedDb.Value.Order
import ScriptedDb.Json.Typed

/-! A row is written as an object with the single field `values`; each value is an object whose key
names its kind, and null is the bare string `"Null"`. -/

namespace ScriptedDb

namespace Value

def kindNames : List String :=
  ["Text", "Integer", "Float", "Boolean", "Blob", "Timestamp", "Json", "Null"]

def tagged (kind : String) (payload : Json) : Json :=
  .object [(kind, payload)]

def toJson : Value → Json
  | .text s => tagged "Text" (.string s)
  | .integer i => tagged "Integer" (.number (.integer i.toInt))
  | .float x => tagged "Float" (if x.isFinite then .number (.float x) else .null)
  | .boolean b => tagged "Boolean" (.bool b)
  | .blob bytes => tagged "Blob" (.array (bytes.map fun b => .number (.integer b.toNat)))
  | .timestamp t => tagged "Timestamp" (.number (.integer t.toInt))
  | .json s => tagged "Json" (.string s)
  | .null => .string "Null"

def readInt64 (s : List Char) : Json.Scanned Int64 :=
  (Json.readInteger "i64" Int64.minValue.toInt Int64.maxValue.toInt s).map
    fun (i, rest) => (Int64.ofInt i, rest)

def readByte (s : List Char) : Json.Scanned UInt8 :=
  (Json.readInteger "u8" 0 255 s).map fun (i, rest) => (UInt8.ofNat i.toNat, rest)

def readPayload (kind : String) (s : List Char) : Json.Scanned Value :=
  if kind = "Text" then (Json.readText "a string" s).map fun (t, rest) => (.text t, rest)
  else if kind = "Integer" then (readInt64 s).map fun (i, rest) => (.integer i, rest)
  else if kind = "Float" then (Json.readFloat s).map fun (x, rest) => (.float x, rest)
  else if kind = "Boolean" then (Json.readBool s).map fun (b, rest) => (.boolean b, rest)
  else if kind = "Blob" then (Json.readArray readByte s).map fun (bs, rest) => (.blob bs, rest)
  else if kind = "Timestamp" then (readInt64 s).map fun (t, rest) => (.timestamp t, rest)
  else if kind = "Json" then (Json.readText "a string" s).map fun (t, rest) => (.json t, rest)
  else (Json.readNull s).map fun (_, rest) => (.null, rest)

def readKind (s : List Char) : Json.Scanned String :=
  match Json.readText "variant identifier" s with
  | .error e => .error e
  | .ok (kind, rest) =>
    if kindNames.contains kind then .ok (kind, rest)
    else .error (.before (.unknownVariant kind kindNames) rest)

/-- Read the key of an object with one member, which names a kind, after its opening brace. -/
def readTag (s : List Char) : Json.Scanned String :=
  match Json.skipBlank s with
  | [] => .error ⟨.endInObject, 0⟩
  | c :: r =>
    if c = '"' then readKind (c :: r)
    else .error (.at (if c = '\x7d' then .expectedValue else .keyNotString) (c :: r))

def readTagged (s : List Char) : Json.Scanned Value :=
  match readTag s with
  | .error e => .error e
  | .ok (kind, s) =>
    match Json.colon s with
    | .error e => .error e
    | .ok s =>
      match readPayload kind s with
      | .error e => .error e
      | .ok (v, s) =>
        match Json.skipBlank s with
        | [] => .error ⟨.endInObject, 0⟩
        | c :: r =>
          if c = '\x7d' then .ok (v, r) else .error (.before .expectedValue (c :: r))

/-- Read a value in its JSON form. Only null may be a bare name. -/
def read (s : List Char) : Json.Scanned Value :=
  match Json.skipBlank s with
  | [] => .error ⟨.endInValue, 0⟩
  | c :: r =>
    if c = '\x7b' then readTagged r
    else if c = '"' then
      match readKind (c :: r) with
      | .error e => .error e
      | .ok (kind, rest) =>
        if kind = "Null" then .ok (.null, rest)
        else .error (.before (.wrongType .unitVariant "newtype variant") rest)
    else .error (.at .expectedValue (c :: r))

end Value

namespace Row

def toJson (row : Row) : Json :=
  .object [("values", .array (row.values.map Value.toJson))]

def encode (row : Row) : String :=
  row.toJson.text

def readMember (known : Option (List Value)) (key : String) (s : List Char) :
    Json.Scanned (Option (List Value)) :=
  if key = "values" then
    (Json.readField key known.isSome (Json.readArray Value.read) s).map fun (vs, rest) =>
      (some vs, rest)
  else (Json.skipField s).map fun rest => (known, rest)

def read (s : List Char) : Json.Scanned Row :=
  match Json.skipBlank s with
  | [] => .error ⟨.endInValue, 0⟩
  | c :: r =>
    if c = '[' then
      match Json.nextItem true r with
      | .error e => .error e
      | .ok (false, rest) => .error (.before (.emptyStruct "struct Row with 1 element") rest)
      | .ok (true, s) =>
        match Json.readArray Value.read s with
        | .error e => .error e
        | .ok (vs, s) => (Json.closeArray s).map fun rest => (⟨vs⟩, rest)
    else if c = '\x7b' then
      match Json.members readMember none r with
      | .error e => .error e
      | .ok (some vs, rest) => .ok (⟨vs⟩, rest)
      | .ok (none, rest) => .error (.before (.missingField "values") rest)
    else .error (Json.wrongType "struct Row" (c :: r))

def decode (text : String) : Except Json.Failure Row :=
  Json.readWhole read text

end Row

end ScriptedDb
