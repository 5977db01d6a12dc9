import ScriptedDb.Rows.Csv

/-! How rows are laid out as comma-separated text. Lines of blanks may stand among the rows. -/

namespace ScriptedDb.Csv

/-- A character that a cell without quotes cannot hold. -/
def isSpecial (c : Char) : Bool :=
  c == ',' || c == '"' || Scanner.isLineEnd c

def doubleQuotes (cs : List Char) : List Char :=
  cs.flatMap fun c => if c = '"' then ['"', '"'] else [c]

inductive CellText (cell : List Char) : List Char → Prop where
  | bare : (∀ c ∈ cell, isSpecial c = false) → CellText cell cell
  | quoted : CellText cell ('"' :: (doubleQuotes cell ++ ['"']))

/-- A way to write the cells of a row, of which there is one at least. -/
inductive RowText : List (List Char) → List Char → Prop where
  | last {cell text : List Char} : CellText cell text → RowText [cell] text
  | cons {cell text rest : List Char} {cells : List (List Char)} : CellText cell text →
      RowText cells rest → RowText (cell :: cells) (text ++ ',' :: rest)

inductive LineEnd : List Char → Prop where
  | lineFeed : LineEnd ['\n']
  | carriageReturn : LineEnd ['\r', '\n']

inductive TableText : List (List (List Char)) → List Char → Prop where
  | blankEnd {blanks : List Char} : (∀ c ∈ blanks, Text.isBlank c = true) → TableText [] blanks
  | lastRow {row : List (List Char)} {text : List Char} : RowText row text → TableText [row] text
  | blankLine {rows : List (List (List Char))} {blanks lineEnd rest : List Char} :
      (∀ c ∈ blanks, Text.isBlank c = true) → LineEnd lineEnd → TableText rows rest →
      TableText rows (blanks ++ (lineEnd ++ rest))
  | row {row : List (List Char)} {rows : List (List (List Char))} {text lineEnd rest : List Char} :
      RowText row text → LineEnd lineEnd → TableText rows rest →
      TableText (row :: rows) (text ++ (lineEnd ++ rest))

end ScriptedDb.Csv
