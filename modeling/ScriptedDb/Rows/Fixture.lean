import ScriptedDb.Json.Typed
import ScriptedDb.Rows.Basic
import ScriptedDb.Rows.Folder

/-! A fixture is an object with the fields `columns` and `rows`, of which the rows may be left out;
the two may also stand in an array in this order. -/

namespace ScriptedDb

namespace Fixture

structure Fields where
  columns : Option (List String) := none
  rows : Option (List (List Json)) := none

/-- How deep the documents in the cells of a fixture may nest: three brackets are open around
them. -/
def cellNestingLimit : Nat := Json.nestingLimit - 3

def readColumns (s : List Char) : Json.Scanned (List String) :=
  Json.readArray (Json.readText "a string") s

def readRows (s : List Char) : Json.Scanned (List (List Json)) :=
  Json.readArray (Json.readArray (Json.document cellNestingLimit)) s

def readMember (known : Fields) (key : String) (s : List Char) : Json.Scanned Fields :=
  if key = "columns" then
    (Json.readField key known.columns.isSome readColumns s).map fun (names, rest) =>
      ({ known with columns := some names }, rest)
  else if key = "rows" then
    (Json.readField key known.rows.isSome readRows s).map fun (rows, rest) =>
      ({ known with rows := some rows }, rest)
  else (Json.skipField s).map fun rest => (known, rest)

def rows (columns : List String) (cells : List (List Json)) : Rows :=
  { columns, rows := cells.map fun row => ⟨row.map Value.ofJson⟩ }

/-- Read the fields of a fixture from the inside of an array. -/
def readItems (s : List Char) : Json.Scanned Rows :=
  match Json.nextItem true s with
  | .error e => .error e
  | .ok (false, rest) =>
    .error (.before (.emptyStruct "struct RowsFixture with 2 elements") rest)
  | .ok (true, s) =>
    match readColumns s with
    | .error e => .error e
    | .ok (columns, s) =>
      match Json.nextItem false s with
      | .error e => .error e
      | .ok (false, rest) => .ok (rows columns [], rest)
      | .ok (true, s) =>
        match readRows s with
        | .error e => .error e
        | .ok (cells, s) => (Json.closeArray s).map fun rest => (rows columns cells, rest)

def read (s : List Char) : Json.Scanned Rows :=
  match Json.skipBlank s with
  | [] => .error ⟨.endInValue, 0⟩
  | c :: r =>
    if c = '[' then readItems r
    else if c = '\x7b' then
      match Json.members readMember {} r with
      | .error e => .error e
      | .ok (fields, rest) =>
        match fields.columns with
        | some columns => .ok (rows columns (fields.rows.getD []), rest)
        | none => .error (.before (.missingField "columns") rest)
    else .error (Json.wrongType "struct RowsFixture" (c :: r))

end Fixture

namespace Rows

def ofJson (text : String) : Except Error Rows :=
  match Json.readWhole Fixture.read text with
  | .error failure => .error (.fixture (.invalidJson failure))
  | .ok rows => rows.validated

def ofFile (folder : Folder) (path : String) : Except Error Rows :=
  match folder.read path with
  | .error failure => .error (.fixture (.unreadable path failure))
  | .ok bytes =>
    match Text.Utf8.decode bytes with
    | .error _ => .error (.fixture (.unreadable path .notUtf8))
    | .ok cs => ofJson (String.ofList cs)

end Rows

end ScriptedDb
