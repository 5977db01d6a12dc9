import Mathlib.Data.List.TakeWhile
import ScriptedDb.Proofs.Rectangular
import ScriptedDb.Rows.CsvLayout

/-! The scanner is followed through a cell, a row and a line of blanks: `Csv.Scanner.Reads` says
where it stands after the cells of a row, and `Csv.Scanner.Idle` where it stands among blanks. -/

namespace ScriptedDb

theorem Text.trim_eq_nil_iff {cs : List Char} : trim cs = [] ↔ ∀ c ∈ cs, isBlank c = true := by
  rw [trim, List.reverse_eq_nil_iff, List.dropWhile_eq_nil_iff]
  constructor
  · intro h c hc
    have hSplit : cs.takeWhile isBlank ++ cs.dropWhile isBlank = cs :=
      List.takeWhile_append_dropWhile
    rw [← hSplit, List.mem_append] at hc
    rcases hc with hc | hc
    · exact List.mem_takeWhile_imp hc
    · exact h c (List.mem_reverse.mpr hc)
  · intro h c hc
    rw [List.mem_reverse] at hc
    exact h c ((List.dropWhile_sublist isBlank).subset hc)

namespace Csv

/-- The records that become rows: their fields without the blanks at the ends, unless all of these
are empty. -/
def kept (records : List (List (List Char))) : List (List (List Char)) :=
  (records.map (·.map Text.trim)).filter fun fields => !fields.all List.isEmpty

theorem kept_append (records more : List (List (List Char))) :
    kept (records ++ more) = kept records ++ kept more := by
  simp [kept]

namespace Scanner

variable {s : Scanner} {cell cs : List Char}

theorem pushPlain_of_not_special {c : Char} (h : isSpecial c = false) (s : Scanner) :
    s.pushPlain c = s.keep .plain c := by
  simp only [isSpecial, Bool.or_eq_false_iff, beq_eq_false_iff_ne] at h
  rw [pushPlain, if_neg h.1.1, h.2]
  rfl

/-- A character that is not special becomes part of the field. -/
theorem push_of_not_special {c : Char} (h : isSpecial c = false) (hPlace : s.place ≠ .quoted) 
    (hSeen : s.place ≠ .quoteSeen) : s.push c = s.keep .plain c := by
  have hPlain := pushPlain_of_not_special h s
  simp only [isSpecial, Bool.or_eq_false_iff, beq_eq_false_iff_ne] at h
  unfold push
  cases hAt : s.place with
  | quoted => exact absurd hAt hPlace
  | quoteSeen => exact absurd hAt hSeen
  | recordStart | fieldStart | plain => simp [h.1.2, h.2, hPlain]

/-- A scanner inside a field takes characters that are not special into it. -/
theorem foldl_push_plain (h : ∀ c ∈ cs, isSpecial c = false) (hPlace : s.place = .plain) :
    cs.foldl push s = { s with field := cs.reverse ++ s.field } := by
  induction cs generalizing s with
  | nil => rfl
  | cons c cs ih =>
    rw [List.forall_mem_cons] at h
    rw [List.foldl_cons, push_of_not_special h.1 (by simp [hPlace]) (by simp [hPlace]),
      ih h.2 rfl]
    simp [keep, hPlace]

/-- A scanner inside quotes takes a text into the field whose quotes are doubled. -/
theorem foldl_push_doubleQuotes (hPlace : s.place = .quoted) :
    (doubleQuotes cs).foldl push s = { s with field := cs.reverse ++ s.field } := by
  induction cs generalizing s with
  | nil => rfl
  | cons c cs ih =>
    rw [doubleQuotes, List.flatMap_cons, List.foldl_append, ← doubleQuotes]
    by_cases hQuote : c = '"'
    · simp only [hQuote, if_true, List.foldl_cons, List.foldl_nil, push, hPlace, keep]
      rw [ih rfl]
      simp
    · simp only [hQuote, if_false, List.foldl_cons, List.foldl_nil, push, hPlace, keep]
      rw [ih rfl]
      simp

theorem push_comma (h : s.place ≠ .quoted) : s.push ',' = s.endField := by
  unfold push
  cases hAt : s.place with
  | quoted => exact absurd hAt h
  | recordStart | fieldStart | plain | quoteSeen => rfl

/-- Outside quotes the end of a line ends a record that was begun. -/
theorem push_lineEnd {c : Char} (hEnd : isLineEnd c = true) (h : s.place ≠ .quoted)
    (hBegun : s.place ≠ .recordStart) : s.push c = s.endRecord := by
  have hComma : c ≠ ',' := by
    rintro rfl
    cases hEnd
  have hQuote : c ≠ '"' := by
    rintro rfl
    cases hEnd
  unfold push
  cases hAt : s.place with
  | quoted => exact absurd hAt h
  | recordStart => exact absurd hAt hBegun
  | fieldStart | plain | quoteSeen => simp [pushPlain, hComma, hQuote, hEnd]

/-- Before a field, a cell in whichever spelling becomes the field. -/
theorem foldl_push_cell {text : List Char} (hText : CellText cell text)
    (hPlace : s.place = .recordStart ∨ s.place = .fieldStart) (hField : s.field = []) :
    ∃ place, text.foldl push s = { s with place, field := cell.reverse } ∧ place ≠ .quoted ∧
      (place = .recordStart → s.place = .recordStart ∧ cell = []) := by
  cases hText with
  | quoted =>
    have hOpen : s.push '"' = { s with place := .quoted } := by
      rcases hPlace with hPlace | hPlace <;> simp [push, hPlace, isLineEnd]
    refine ⟨.quoteSeen, ?_, by simp, by simp⟩
    rw [List.foldl_cons, hOpen, List.foldl_append, foldl_push_doubleQuotes rfl]
    simp [push, hField]
  | bare hBare =>
    cases cell with
    | nil =>
      refine ⟨s.place, ?_, ?_, by simp⟩
      · rw [List.foldl_nil, List.reverse_nil, ← hField]
      · rcases hPlace with hPlace | hPlace <;> simp [hPlace]
    | cons c cell =>
      rw [List.forall_mem_cons] at hBare
      have hPush : s.push c = s.keep .plain c :=
        push_of_not_special hBare.1 (by rcases hPlace with hPlace | hPlace <;> simp [hPlace])
          (by rcases hPlace with hPlace | hPlace <;> simp [hPlace])
      refine ⟨.plain, ?_, by simp, by simp⟩
      rw [List.foldl_cons, hPush, foldl_push_plain hBare.2 rfl]
      simp [keep, hField]

/-- The scanner `s'` has read the cells of a row, the last of which is not ended yet. Only a row whose
one cell is empty may leave no trace. -/
structure Reads (s s' : Scanner) (row : List (List Char)) : Prop where
  fields : s'.field.reverse :: s'.fields = row.reverse ++ s.fields
  records : s'.records = s.records
  outside : s'.place ≠ .quoted
  begun : s'.place = .recordStart → s.place = .recordStart ∧ row = [[]]

theorem reads_of_rowText {row : List (List Char)} {text : List Char} (hText : RowText row text)
    (hPlace : s.place = .recordStart ∨ s.place = .fieldStart) (hField : s.field = []) :
    s.Reads (text.foldl push s) row := by
  induction hText generalizing s with
  | last hCell =>
    obtain ⟨place, hFold, hOutside, hBegun⟩ := foldl_push_cell hCell hPlace hField
    rw [hFold]
    refine ⟨by simp, rfl, hOutside, fun hStart => ?_⟩
    obtain ⟨hBefore, rfl⟩ := hBegun hStart
    exact ⟨hBefore, rfl⟩
  | @cons cell text rest cells hCell _ ih =>
    obtain ⟨place, hFold, hOutside, -⟩ := foldl_push_cell hCell hPlace hField
    have hComma : push { s with place, field := cell.reverse } ',' =
        { s with place := .fieldStart, field := [], fields := cell :: s.fields } := by
      rw [push_comma hOutside, endField, List.reverse_reverse]
    rw [List.foldl_append, hFold, List.foldl_cons, hComma]
    obtain ⟨hFields, hRecords, hOutside', hBegun⟩ := ih (.inr rfl) rfl
      (s := { s with place := .fieldStart, field := [], fields := cell :: s.fields })
    refine ⟨by simpa using hFields, hRecords, hOutside', fun hStart => ?_⟩
    cases (hBegun hStart).1

theorem Reads.endRecord {s' : Scanner} {row : List (List Char)} (h : s.Reads s' row)
    (hFields : s.fields = []) : s'.endRecord = { records := row :: s.records } := by
  rw [Scanner.endRecord, h.fields, h.records, hFields]
  simp

/-- The scanner stands among blanks, which begin a record at most; `ks` is what is kept of the records
before. -/
structure Idle (s : Scanner) (ks : List (List (List Char))) : Prop where
  kept : kept s.records.reverse = ks
  fields : s.fields = []
  blank : ∀ c ∈ s.field, Text.isBlank c = true
  place : s.place = .plain ∨ s.place = .recordStart ∧ s.field = []

variable {ks : List (List (List Char))}

/-- A record of one blank field is not kept. -/
theorem Idle.endRecord (h : s.Idle ks) : s.endRecord.Idle ks where
  kept := by
    have hBlank : Text.trim s.field.reverse = [] := by
      rw [Text.trim_eq_nil_iff]
      intro c hc
      exact h.blank c (List.mem_reverse.mp hc)
    rw [Scanner.endRecord, h.fields, List.reverse_cons, kept_append, h.kept]
    simp [Csv.kept, hBlank]
  fields := rfl
  blank c hc := by cases hc
  place := .inr ⟨rfl, rfl⟩

theorem Idle.keep (h : s.Idle ks) {c : Char} (hc : Text.isBlank c = true) :
    (s.keep .plain c).Idle ks where
  kept := h.kept
  fields := h.fields
  blank := List.forall_mem_cons.mpr ⟨hc, h.blank⟩
  place := .inl rfl

theorem Idle.push (h : s.Idle ks) {c : Char} (hc : Text.isBlank c = true) : (s.push c).Idle ks := by
  have hComma : c ≠ ',' := by
    rintro rfl
    cases hc
  have hQuote : c ≠ '"' := by
    rintro rfl
    cases hc
  have hPlain : s.pushPlain c = if isLineEnd c then s.endRecord else s.keep .plain c := by
    rw [pushPlain, if_neg hComma]
  unfold Scanner.push
  rcases h.place with hPlace | ⟨hPlace, -⟩
  · simp only [hPlace, hPlain]
    split
    · exact h.endRecord
    · exact h.keep hc
  · simp only [hPlace, hPlain, hQuote, if_false]
    split
    · exact h
    · exact h.keep hc

theorem Idle.foldl_push (h : s.Idle ks) (hBlank : ∀ c ∈ cs, Text.isBlank c = true) :
    (cs.foldl Scanner.push s).Idle ks := by
  induction cs generalizing s with
  | nil => exact h
  | cons c cs ih =>
    rw [List.forall_mem_cons] at hBlank
    exact ih (h.push hBlank.1) hBlank.2

/-- A line end brings the scanner to the start of a record. -/
theorem foldl_push_lineEnd {lineEnd : List Char} (hEnd : LineEnd lineEnd)
    (hOutside : s.place ≠ .quoted) (hBegun : s.place ≠ .recordStart) :
    lineEnd.foldl push s = s.endRecord := by
  cases hEnd with
  | lineFeed => exact push_lineEnd rfl hOutside hBegun
  | carriageReturn =>
    rw [List.foldl_cons, push_lineEnd rfl hOutside hBegun]
    rfl

theorem foldl_push_lineEnd_start {lineEnd : List Char} (hEnd : LineEnd lineEnd)
    (hPlace : s.place = .recordStart) : lineEnd.foldl push s = s := by
  have hPush {c : Char} (hc : isLineEnd c = true) : s.push c = s := by
    simp only [push, hPlace, hc, if_true]
  cases hEnd with
  | lineFeed => exact hPush rfl
  | carriageReturn =>
    rw [List.foldl_cons, hPush rfl]
    exact hPush rfl

/-- At the start of a record, nothing of it read. -/
theorem Idle.lineEnd (h : s.Idle ks) {lineEnd : List Char} (hEnd : LineEnd lineEnd) :
    ∃ records, lineEnd.foldl Scanner.push s = { records } ∧ Csv.kept records.reverse = ks := by
  rcases h.place with hPlace | ⟨hPlace, hField⟩
  · rw [foldl_push_lineEnd hEnd (by simp [hPlace]) (by simp [hPlace])]
    exact ⟨_, rfl, h.endRecord.kept⟩
  · rw [foldl_push_lineEnd_start hEnd hPlace]
    refine ⟨s.records, ?_, h.kept⟩
    calc
      s = ⟨s.place, s.field, s.fields, s.records⟩ := rfl
      _ = { records := s.records } := by rw [hPlace, hField, h.fields]

end Scanner

/-- A row with a character that is not blank is kept. -/
theorem kept_singleton {row : List (List Char)} (h : ∃ cell ∈ row, ∃ c ∈ cell, Text.isBlank c = false) :
    kept [row] = [row.map Text.trim] := by
  obtain ⟨cell, hCell, c, hc, hInk⟩ := h
  have hTrim : Text.trim cell ≠ [] := by
    rw [ne_eq, Text.trim_eq_nil_iff]
    intro hAll
    rw [hAll c hc] at hInk
    cases hInk
  have hNot : (row.map Text.trim).all List.isEmpty = false := by
    rw [List.all_eq_false]
    exact ⟨_, List.mem_map_of_mem hCell, by simpa using hTrim⟩
  simp [kept, hNot]

/-- A row that was laid out becomes a record, whatever ends it. -/
theorem reads_of_ink {row : List (List Char)} {text : List Char} (hText : RowText row text)
    (hInk : ∃ cell ∈ row, ∃ c ∈ cell, Text.isBlank c = false) (records : List (List (List Char))) :
    (text.foldl Scanner.push { records }).endRecord = { records := row :: records } ∧
      (text.foldl Scanner.push { records }).place ≠ .quoted ∧
      (text.foldl Scanner.push { records }).place ≠ .recordStart := by
  have hReads := Scanner.reads_of_rowText (s := { records }) hText (.inl rfl) rfl
  refine ⟨hReads.endRecord rfl, hReads.outside, fun hStart => ?_⟩
  obtain rfl := (hReads.begun hStart).2
  simp at hInk

/-- Rows that were laid out are kept, in order, after what was kept before. -/
theorem kept_finish {rows : List (List (List Char))} {text : List Char} (hText : TableText rows text)
    (hInk : ∀ row ∈ rows, ∃ cell ∈ row, ∃ c ∈ cell, Text.isBlank c = false)
    (records : List (List (List Char))) :
    kept (text.foldl Scanner.push { records }).finish =
      kept records.reverse ++ rows.map (·.map Text.trim) := by
  induction hText generalizing records with
  | blankEnd hBlank =>
    have hIdle : ({ records } : Scanner).Idle (kept records.reverse) :=
      ⟨rfl, rfl, by simp, .inr ⟨rfl, rfl⟩⟩
    have hAfter := hIdle.foldl_push hBlank
    rw [List.map_nil, List.append_nil]
    rcases hAfter.place with hPlace | ⟨hPlace, -⟩
    · rw [Scanner.finish, hPlace]
      exact hAfter.endRecord.kept
    · rw [Scanner.finish, hPlace]
      exact hAfter.kept
  | @lastRow row text hRow =>
    have hRowInk := hInk row (by simp)
    obtain ⟨hEnd, -, hBegun⟩ := reads_of_ink hRow hRowInk records
    rw [Scanner.finish]
    split
    · rename_i hPlace
      exact absurd hPlace hBegun
    · rw [hEnd, List.reverse_cons, kept_append, kept_singleton hRowInk]
      rfl
  | blankLine hBlank hEnd _ ih =>
    have hIdle : ({ records } : Scanner).Idle (kept records.reverse) :=
      ⟨rfl, rfl, by simp, .inr ⟨rfl, rfl⟩⟩
    obtain ⟨records', hStart, hKept⟩ := (hIdle.foldl_push hBlank).lineEnd hEnd
    rw [List.foldl_append, List.foldl_append, hStart, ih hInk, hKept]
  | @row row rows text lineEnd rest hRow hEnd _ ih =>
    rw [List.forall_mem_cons] at hInk
    obtain ⟨hRecord, hOutside, hBegun⟩ := reads_of_ink hRow hInk.1 records
    rw [List.foldl_append, List.foldl_append, Scanner.foldl_push_lineEnd hEnd hOutside hBegun,
      hRecord, ih hInk.2, List.reverse_cons, kept_append, kept_singleton hInk.1]
    simp

end Csv

namespace Rows

/-- Comma-separated text is read back. Rows with one cell for every column, none of them blank all
over, come back in order from every text that lays them out, unless it begins with a byte order mark:
each cell as the value of what was written, without the blanks at its ends. -/
theorem csv_round_trip (columns : List String) {rows : List (List (List Char))} {text : String}
    (hText : Csv.TableText rows text.toList) (hMark : text.toList.head? ≠ some '\uFEFF')
    (hWidth : ∀ row ∈ rows, row.length = columns.length)
    (hInk : ∀ row ∈ rows, ∃ cell ∈ row, ∃ c ∈ cell, Text.isBlank c = false) :
    ofCsv columns text =
      .ok { columns, rows := rows.map fun row => ⟨row.map fun cell => Csv.cell (Text.trim cell)⟩ } := by
  have hBody : Csv.records text.toList =
      ((text.toList.foldl Csv.Scanner.push {}).finish).map (·.map Text.trim) := by
    unfold Csv.records
    split
    · rename_i rest hFront
      rw [hFront] at hMark
      exact absurd rfl hMark
    · rfl
  have hKept : (Csv.records text.toList).filter (fun fields => !fields.all List.isEmpty) =
      rows.map (·.map Text.trim) := by
    rw [hBody]
    exact Csv.kept_finish hText hInk []
  rw [ofCsv, hKept, List.map_map]
  have hRows : rows.map ((fun fields => (⟨fields.map Csv.cell⟩ : Row)) ∘ (·.map Text.trim)) =
      rows.map fun row => ⟨row.map fun cell => Csv.cell (Text.trim cell)⟩ := by
    simp [Function.comp_def]
  rw [hRows]
  apply validated_of_rectangular
  intro row hRow
  obtain ⟨cells, hCells, rfl⟩ := List.mem_map.mp hRow
  simpa using hWidth cells hCells

/-- A quoted cell with a comma, a quote and a line break; a padded number; a line of blanks; and a row
that begins with an empty cell and ends with the text. -/
theorem csv_round_trip_quoted :
    ofCsv ["a", "b"] "\"x,\"\"y\nz\", 7 \r\n \t\n,NULL" =
      .ok { columns := ["a", "b"]
            rows := [⟨[.text "x,\"y\nz", .integer 7]⟩, ⟨[.text "", .null]⟩] } := by
  have hText : Csv.TableText [["x,\"y\nz".toList, " 7 ".toList], ["".toList, "NULL".toList]]
      "\"x,\"\"y\nz\", 7 \r\n \t\n,NULL".toList := by
    -- The text in its parts: a row and its end, blanks and their end, a row.
    change Csv.TableText _ ("\"x,\"\"y\nz\", 7 ".toList ++ ("\r\n".toList ++
      (" \t".toList ++ ("\n".toList ++ ",NULL".toList))))
    have hBare : ∀ cell ∈ [" 7 ".toList, "".toList, "NULL".toList],
        ∀ c ∈ cell, Csv.isSpecial c = false := by
      simp [Csv.isSpecial, Csv.Scanner.isLineEnd]
    refine .row (.cons .quoted (.last (.bare (hBare _ (by simp))))) .carriageReturn ?_
    refine .blankLine (List.all_eq_true.mp rfl) .lineFeed ?_
    exact .lastRow (.cons (.bare (hBare _ (by simp))) (.last (.bare (hBare _ (by simp)))))
  exact csv_round_trip ["a", "b"] hText (by decide) (by decide) (by simp [Text.isBlank])

end Rows

end ScriptedDb
