import ScriptedDb.Error
import ScriptedDb.Value.Order

/-! The declared outcome of a Query call is also the cursor that its caller reads. A fault
registered at the index of a row takes the place of that row and ends the reading. -/

namespace ScriptedDb

/-- Rows with their column names, the faults registered at row indices with the latest first, and
the state of the cursor. -/
structure Rows where
  columns : List String
  rows : List Row := []
  faults : List (Nat × Fault) := []
  cursor : Nat := 0
  exhausted : Bool := false

namespace Rows

def addRow (r : Rows) (values : List Value) : Rows :=
  { r with rows := r.rows ++ [⟨values⟩] }

/-- Register a fault at an index, in place of an earlier one. -/
def rowError (r : Rows) (index : Nat) (fault : Fault) : Rows :=
  { r with faults := (index, fault) :: r.faults }

/-- The fault registered last at an index. -/
def faultAt? (r : Rows) (index : Nat) : Option Fault :=
  r.faults.lookup index

/-- Read once: what is yielded, and the rows with the cursor moved on. -/
def next (r : Rows) : Option (Except Error Row) × Rows :=
  if r.exhausted then (none, r)
  else
    match r.faultAt? r.cursor with
    | some fault => (some (.error (.injected fault)), { r with exhausted := true })
    | none =>
      match r.rows[r.cursor]? with
      | none => (none, { r with exhausted := true })
      | some row => (some (.ok row), { r with cursor := r.cursor + 1 })

/-- Read a number of times, whatever is yielded. -/
def advance (r : Rows) : Nat → Rows
  | 0 => r
  | n + 1 => r.next.2.advance n

/-- Read at most `bound` items, until nothing is yielded. -/
def drainLoop : (bound : Nat) → Rows → List (Except Error Row) × Rows
  | 0, r => ([], r)
  | bound + 1, r =>
    match r.next with
    | (none, r) => ([], r)
    | (some item, r) =>
      let (items, r) := drainLoop bound r
      (item :: items, r)

/-- Read until nothing is yielded: every row at most, a fault, and the end. -/
def drain (r : Rows) : List (Except Error Row) × Rows :=
  drainLoop (r.rows.length + 2) r

/-- The first row, counted from `index`, that has not one value for every column. -/
def raggedRow? (columns : Nat) : (index : Nat) → List Row → Option FixtureFault
  | _, [] => none
  | index, row :: rest =>
    if row.values.length = columns then raggedRow? columns (index + 1) rest
    else some (.raggedRow index row.values.length columns)

def validate (r : Rows) : Except Error Unit :=
  match raggedRow? r.columns.length 0 r.rows with
  | none => .ok ()
  | some fault => .error (.fixture fault)

/-- The rows, if all of them have one value for every column. -/
def validated (r : Rows) : Except Error Rows :=
  match r.validate with
  | .ok () => .ok r
  | .error e => .error e

end Rows

end ScriptedDb
