import ScriptedDb.Json.Printer
import ScriptedDb.Json.Spelling
import ScriptedDb.Value.Order

/-! How columns and rows are laid out as the JSON text of a fixture. The two members may stand in
either order. -/

namespace ScriptedDb.Fixture

open Json (ArrayText MemberText ObjectText Padded StringText)

inductive Cell where
  | null
  | boolean (b : Bool)
  | integer (i : Int64)
  | text (s : String)

def Cell.value : Cell → Value
  | .null => .null
  | .boolean b => .boolean b
  | .integer i => .integer i
  | .text s => .text s

def valueRows (cells : List (List Cell)) : List Row :=
  cells.map fun row => ⟨row.map Cell.value⟩

/-- A way to write a cell. Integers are in decimal, with a sign only when negative. -/
inductive CellText : Cell → List Char → Prop where
  | null : CellText .null Json.null.render
  | boolean (b : Bool) : CellText (.boolean b) (Json.bool b).render
  | integer (i : Int64) : CellText (.integer i) (Json.renderInt i.toInt)
  | text {s : String} {text : List Char} : StringText s text → CellText (.text s) text

inductive Field where
  | columns
  | rows

inductive FieldText (columns : List String) (cells : List (List Cell)) : Field → List Char → Prop where
  | columns {text : List Char} : MemberText "columns" (ArrayText StringText) columns text →
      FieldText columns cells .columns text
  | rows {text : List Char} : MemberText "rows" (ArrayText (ArrayText CellText)) cells text →
      FieldText columns cells .rows text

inductive TableText (columns : List String) (cells : List (List Cell)) : List Char → Prop where
  | columnsFirst {text : List Char} :
      Padded (ObjectText (FieldText columns cells)) [.columns, .rows] text →
      TableText columns cells text
  | rowsFirst {text : List Char} :
      Padded (ObjectText (FieldText columns cells)) [.rows, .columns] text →
      TableText columns cells text

end ScriptedDb.Fixture
