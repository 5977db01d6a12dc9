import ScriptedDb.Proofs.Json.Integers
import ScriptedDb.Proofs.Json.Printed
import ScriptedDb.Proofs.Json.Structure
import ScriptedDb.Proofs.Rectangular
import ScriptedDb.Rows.Fixture
import ScriptedDb.Rows.FixtureLayout

/-! The members of a fixture are followed from what was known before one to what is known after it,
in the order in which they stand. -/

namespace ScriptedDb

namespace Fixture

open Json (ArrayText ObjectText Reads ReadsMember StringText Takes)

def Cell.document : Cell → Json
  | .null => .null
  | .boolean b => .bool b
  | .integer i => .number (.integer i.toInt)
  | .text s => .string s

/-- A document stands for the value that was put in the cell. -/
theorem Cell.ofJson_document (cell : Cell) : Value.ofJson cell.document = cell.value := by
  cases cell with
  | null | boolean _ | text _ => rfl
  | integer i => rw [document, Value.ofJson, if_pos i.toInt_le, Int64.ofInt_toInt, value]

theorem reads_cellText {cell : Cell} {text : List Char} (h : CellText cell text) (room : Nat) :
    Reads (Json.document room) cell.document text := by
  cases h with
  | null => exact Json.reads_document_null room
  | boolean b => exact Json.reads_document_bool room b
  | integer i => exact Json.reads_document_integer room (Json.fits_int64 i)
  | text hString => exact Json.reads_document_string hString room

/-- The names of the columns are read as they were written. -/
theorem reads_readColumns {columns : List String} {text : List Char}
    (h : ArrayText StringText columns text) : Reads readColumns columns text := by
  apply Json.reads_readArray
  exact h.imp fun s _ t ht => Json.reads_readText ht "a string"

theorem reads_readRows {cells : List (List Cell)} {text : List Char}
    (h : ArrayText (ArrayText CellText) cells text) :
    Reads readRows (cells.map (·.map Cell.document)) text := by
  refine Json.reads_readArray (h.map fun row _ t hRow => ?_)
  exact Json.reads_readArray (hRow.map fun cell _ t hCell => reads_cellText hCell cellNestingLimit)

theorem cellText_document (cell : Cell) : CellText cell cell.document.render := by
  cases cell with
  | null => exact .null
  | boolean b => exact .boolean b
  | integer i => exact .integer i
  | text s => exact .text (Json.stringText_render s)

/-- Every table has a fixture: its text may be printed without blanks. -/
theorem tableText_render (columns : List String) (cells : List (List Cell)) :
    TableText columns cells (Json.object [("columns", .array (columns.map Json.string)),
      ("rows", .array (cells.map fun row => .array (row.map Cell.document)))]).render := by
  have hNames : ArrayText StringText columns (Json.array (columns.map Json.string)).render :=
    Json.arrayText_render fun name _ => Json.stringText_render name
  have hCells : ArrayText (ArrayText CellText) cells
      (Json.array (cells.map fun row => .array (row.map Cell.document))).render :=
    Json.arrayText_render fun row _ => Json.arrayText_render fun cell _ => cellText_document cell
  have hObject := ObjectText.braces (.cons
    (Json.padded_of_written (FieldText.columns (Json.memberText_render "columns" hNames)))
    (.single (Json.padded_of_written (FieldText.rows (Json.memberText_render "rows" hCells)))))
  rw [Json.render, Json.renderMembers, Json.renderMembers, Json.renderMembers]
  exact .columnsFirst (Json.padded_of_written hObject)

theorem rows_document (columns : List String) (cells : List (List Cell)) :
    rows columns (cells.map (·.map Cell.document)) = { columns, rows := valueRows cells } := by
  simp [rows, valueRows, Cell.ofJson_document]

/-- The columns are read when they were not known before. -/
theorem readsMember_columns {columns : List String} {cells : List (List Cell)} {text : List Char}
    (h : FieldText columns cells .columns text) {known : Fields} (hNew : known.columns = none) :
    ReadsMember readMember known { known with columns := some columns } text := by
  cases h with
  | columns hMember =>
    refine Json.readsMember_memberText hMember (fun t ht => reads_readColumns ht) ?_
    intro s s' hColon rest hRead
    simp [readMember, Json.readField, hNew, hColon, hRead, Except.map]

/-- The rows are read when they were not known before. -/
theorem readsMember_rows {columns : List String} {cells : List (List Cell)} {text : List Char}
    (h : FieldText columns cells .rows text) {known : Fields} (hNew : known.rows = none) :
    ReadsMember readMember known { known with rows := some (cells.map (·.map Cell.document)) } text := by
  cases h with
  | rows hMember =>
    refine Json.readsMember_memberText hMember (fun t ht => reads_readRows ht) ?_
    intro s s' hColon rest hRead
    simp [readMember, Json.readField, hNew, hColon, hRead, Except.map]

theorem takes_fields {columns : List String} {cells : List (List Cell)} {fields : List Field}
    (h : fields = [.columns, .rows] ∨ fields = [.rows, .columns]) :
    Takes readMember (FieldText columns cells) {} fields
      { columns := some columns, rows := some (cells.map (·.map Cell.document)) } := by
  rcases h with rfl | rfl
  · exact .cons (fun t ht => readsMember_columns ht rfl)
      (.cons (fun t ht => readsMember_rows ht rfl) .nil)
  · exact .cons (fun t ht => readsMember_rows ht rfl)
      (.cons (fun t ht => readsMember_columns ht rfl) .nil)

/-- The object of a fixture is read as its columns and rows. -/
theorem reads_objectText {columns : List String} {cells : List (List Cell)} {fields : List Field}
    {text : List Char} (hFields : fields = [.columns, .rows] ∨ fields = [.rows, .columns])
    (h : ObjectText (FieldText columns cells) fields text) :
    Reads read { columns, rows := valueRows cells } text := by
  refine Json.reads_objectText h (takes_fields hFields) fun s r hSkip rest hMembers => ?_
  rw [read, hSkip]
  simp [hMembers, rows_document]

theorem readWhole_tableText {columns : List String} {cells : List (List Cell)} {text : String}
    (h : TableText columns cells text.toList) :
    Json.readWhole read text = .ok { columns, rows := valueRows cells } := by
  cases h with
  | columnsFirst hPadded =>
    exact Json.readWhole_of_reads hPadded fun t => reads_objectText (.inl rfl)
  | rowsFirst hPadded => exact Json.readWhole_of_reads hPadded fun t => reads_objectText (.inr rfl)

end Fixture

namespace Rows

open Fixture (CellText FieldText TableText)
open Json (ArrayText ObjectText StringText)

/-- Fixtures are read back. The columns and the rows come back from every text that lays them out, if
every row has one cell for every column; otherwise the failure names the first row that has not, by its
index and its width. -/
theorem fixture_round_trip {columns : List String} {cells : List (List Fixture.Cell)} {text : String}
    (hText : Fixture.TableText columns cells text.toList) :
    let table : Rows :=
      { columns, rows := Fixture.valueRows cells, faults := [], cursor := 0, exhausted := false }
    (table.Rectangular → ofJson text = .ok table) ∧
      (¬table.Rectangular → ∃ index row, table.FirstRagged index row ∧
        ofJson text = .error (.fixture (.raggedRow index row.values.length columns.length))) := by
  intro table
  have hRead : ofJson text = table.validated := by
    rw [ofJson, Fixture.readWhole_tableText hText]
  rw [hRead]
  refine ⟨validated_of_rectangular, fun hRagged => ?_⟩
  rcases table.validated_cases with ⟨hRectangular, -⟩ | hFirst
  · exact absurd hRectangular hRagged
  · exact hFirst

/-- Rows before columns, blanks between tokens and every kind of escape; and a second row that is too
short. -/
theorem fixture_round_trip_spelled :
    ofJson "\n\x7b\"rows\": [[-9223372036854775808, \"\\u00e9\\n\"]],\t\"columns\": [\"id\", \"\\ud83d\\ude00\"]\x7d" =
        .ok { columns := ["id", "😀"], rows := [⟨[.integer Int64.minValue, .text "é\n"]⟩] } ∧
      ofJson "\x7b\"columns\":[\"id\"],\"rows\":[[true],[]]\x7d" =
        .error (.fixture (.raggedRow 1 0 1)) := by
  have hLine : Json.Blanks ['\n'] := by decide
  have hSpace : Json.Blanks [' '] := by decide
  have hTab : Json.Blanks ['\t'] := by decide
  have hNone := Json.blanks_nil
  have hFace : StringText "😀" "\"\\ud83d\\ude00\"".toList :=
    StringText.quoted (s := "😀") (.cons (.pair (by decide) (by decide)
      (.digits (a := 'd') (b := '8') (c := '3') (d := 'd') rfl rfl rfl rfl)
      (.digits (a := 'd') (b := 'e') (c := '0') (d := '0') rfl rfl rfl rfl) (by decide)) .nil)
  have hAccent : StringText "é\n" "\"\\u00e9\\n\"".toList :=
    StringText.quoted (s := "é\n") (.cons (.unit
        (.digits (a := '0') (b := '0') (c := 'e') (d := '9') rfl rfl rfl rfl))
      (.cons (.letter (show Json.letterEscape? 'n' = some '\n' from rfl)) .nil))
  have hRow : ArrayText CellText [.integer Int64.minValue, .text "é\n"]
      "[-9223372036854775808, \"\\u00e9\\n\"]".toList :=
    .brackets (.cons (.between hNone (CellText.integer Int64.minValue) hNone)
      (.single (.between hSpace (CellText.text hAccent) hNone)))
  have hRows : FieldText ["id", "😀"] [[.integer Int64.minValue, .text "é\n"]] .rows
      "\"rows\": [[-9223372036854775808, \"\\u00e9\\n\"]]".toList :=
    .rows (.colon (Json.stringText_renderString "rows") hNone hSpace
      (.brackets (.single (.between hNone hRow hNone))))
  have hColumns : FieldText ["id", "😀"] [[.integer Int64.minValue, .text "é\n"]] .columns
      "\"columns\": [\"id\", \"\\ud83d\\ude00\"]".toList :=
    .columns (.colon (Json.stringText_renderString "columns") hNone hSpace (.brackets
      (.cons (.between hNone (Json.stringText_renderString "id") hNone)
        (.single (.between hSpace hFace hNone)))))
  have hText : TableText ["id", "😀"] [[.integer Int64.minValue, .text "é\n"]]
      "\n\x7b\"rows\": [[-9223372036854775808, \"\\u00e9\\n\"]],\t\"columns\": [\"id\", \"\\ud83d\\ude00\"]\x7d".toList :=
    .rowsFirst (.between hLine (ObjectText.braces (.cons (.between hNone hRows hNone)
      (.single (.between hTab hColumns hNone)))) hNone)
  refine ⟨(fixture_round_trip hText).1 (by decide), ?_⟩
  have hShort : TableText ["id"] [[.boolean true], []]
      "\x7b\"columns\":[\"id\"],\"rows\":[[true],[]]\x7d".toList :=
    Fixture.tableText_render ["id"] [[.boolean true], []]
  obtain ⟨index, row, hFirst, hRead⟩ := (fixture_round_trip hShort).2 (by decide)
  have hAt := hFirst.getElem?
  rcases index with _ | _ | index
  · cases hAt
    exact absurd rfl hFirst.ragged
  · cases hAt
    exact hRead
  · cases hAt

end Rows

end ScriptedDb
