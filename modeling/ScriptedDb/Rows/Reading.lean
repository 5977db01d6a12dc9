import ScriptedDb.Rows.Basic

/-! Building and reading may alternate: rows and faults are added while a cursor moves. -/

namespace ScriptedDb

inductive Rows.Operation where
  | addRow (values : List Value)
  | rowError (index : Nat) (fault : Fault)
  | next

namespace Rows

def ofColumns (columns : List String) : Rows :=
  { columns }

def operate (r : Rows) : Operation → Rows
  | .addRow values => r.addRow values
  | .rowError index fault => r.rowError index fault
  | .next => r.next.2

def after (r : Rows) (ops : List Operation) : Rows :=
  ops.foldl operate r

def Operation.row? : Operation → Option Row
  | .addRow values => some ⟨values⟩
  | _ => none

def Operation.fault? (index : Nat) : Operation → Option Fault
  | .rowError i fault => if i = index then some fault else none
  | _ => none

def added (ops : List Operation) : List Row :=
  ops.filterMap Operation.row?

def lastRegistered (ops : List Operation) (index : Nat) : Option Fault :=
  (ops.filterMap (Operation.fault? index)).getLast?

/-- Whether reading is over once this was yielded: nothing, or a fault. -/
def isFinal : Option (Except Error Row) → Bool
  | some (.ok _) => false
  | _ => true

/-- Some operation has read what ends the reading. -/
def HasEnded (r : Rows) (ops : List Operation) : Prop :=
  ∃ earlier later, ops = earlier ++ .next :: later ∧ isFinal (r.after earlier).next.1 = true

/-- Repeated reading yields the items, in order, and then nothing for ever. -/
def Yields (r : Rows) (items : List (Except Error Row)) : Prop :=
  ∀ n, (r.advance n).next.1 = items[n]?

/-- The fault is the one registered at the least index that the cursor has not passed. -/
structure NextFault (r : Rows) (index : Nat) (fault : Fault) : Prop where
  ahead : r.cursor ≤ index
  registered : r.faultAt? index = some fault
  first : ∀ i, r.cursor ≤ i → i < index → r.faultAt? i = none

end Rows

end ScriptedDb
