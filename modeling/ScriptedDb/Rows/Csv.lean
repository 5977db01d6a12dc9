import ScriptedDb.Rows.Basic
import ScriptedDb.Text.Blank

/-! A field that begins with a quote runs to the next quote that is not doubled, and takes what
follows literally up to the next comma or line end. Quoted or not, the kind of a cell is told by
what it looks like. -/

namespace ScriptedDb

namespace Csv

inductive Place where
  /-- Before the first character of a record; line ends here make no record. -/
  | recordStart
  /-- Before the first character of a field that follows a comma. -/
  | fieldStart
  /-- Inside a field, or after its closing quote. -/
  | plain
  /-- Inside quotes. -/
  | quoted
  /-- After a quote inside quotes, which closes them unless another quote follows. -/
  | quoteSeen
  deriving DecidableEq

/-- A scanner of comma-separated text: its place, the field being read and the fields read of the
current record, both backwards, and the records read, backwards. -/
structure Scanner where
  place : Place := .recordStart
  field : List Char := []
  fields : List (List Char) := []
  records : List (List (List Char)) := []

namespace Scanner

def keep (s : Scanner) (place : Place) (c : Char) : Scanner :=
  { s with place := place, field := c :: s.field }

def endField (s : Scanner) : Scanner :=
  { s with place := .fieldStart, field := [], fields := s.field.reverse :: s.fields }

def endRecord (s : Scanner) : Scanner :=
  { records := (s.field.reverse :: s.fields).reverse :: s.records }

def isLineEnd (c : Char) : Bool :=
  c == '\n' || c == '\r'

/-- Take a character outside quotes. -/
def pushPlain (s : Scanner) (c : Char) : Scanner :=
  if c = ',' then s.endField else if isLineEnd c then s.endRecord else s.keep .plain c

/-- Take one character of the text. A line feed after a carriage return ends a record that is
empty, and so does nothing. -/
def push (s : Scanner) (c : Char) : Scanner :=
  match s.place with
  | .recordStart =>
    if isLineEnd c then s else if c = '"' then { s with place := .quoted } else s.pushPlain c
  | .fieldStart => if c = '"' then { s with place := .quoted } else s.pushPlain c
  | .plain => s.pushPlain c
  | .quoted => if c = '"' then { s with place := .quoteSeen } else s.keep .quoted c
  | .quoteSeen => if c = '"' then s.keep .quoted c else s.pushPlain c

/-- End the text: a record that was begun is complete, also inside quotes. -/
def finish (s : Scanner) : List (List (List Char)) :=
  match s.place with
  | .recordStart => s.records.reverse
  | _ => s.endRecord.records.reverse

end Scanner

/-- The records of a text, as fields without the blanks at their ends. A byte order mark that
begins the text is no part of it. -/
def records (text : List Char) : List (List (List Char)) :=
  let body := match text with
    | '\uFEFF' :: rest => rest
    | text => text
  (body.foldl Scanner.push {}).finish.map (·.map Text.trim)

def cell (cs : List Char) : Value :=
  if cs = ['N', 'U', 'L', 'L'] then .null
  else
    match Numeral.int64? cs with
    | some i => .integer i
    | none =>
      match Numeral.float? cs with
      | some x => .float x
      | none => .text (String.ofList cs)

end Csv

namespace Rows

/-- Rows from comma-separated text. Records whose fields are all empty are left out, and every
other record must have one field for every column. -/
def ofCsv (columns : List String) (text : String) : Except Error Rows :=
  let records := (Csv.records text.toList).filter fun fields => !fields.all List.isEmpty
  validated { columns, rows := records.map fun fields => ⟨fields.map Csv.cell⟩ }

end Rows

end ScriptedDb
