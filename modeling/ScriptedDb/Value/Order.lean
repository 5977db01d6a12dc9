import ScriptedDb.Value.Basic

/-! Values are ordered by their kind first and by their content within a kind; floating-point
numbers by the total order on their bits. -/

namespace ScriptedDb

namespace Value

def rank : Value → Nat
  | .null => 0
  | .boolean _ => 1
  | .integer _ => 2
  | .timestamp _ => 3
  | .float _ => 4
  | .text _ => 5
  | .json _ => 6
  | .blob _ => 7

/-- The order of values. Texts are ordered by their code points and blobs byte by byte. -/
def cmp : Value → Value → Ordering
  | .boolean a, .boolean b => compare a b
  | .integer a, .integer b => compare a b
  | .timestamp a, .timestamp b => compare a b
  | .float a, .float b => a.totalCompare b
  | .text a, .text b => compare a b
  | .json a, .json b => compare a b
  | .blob a, .blob b => compare a b
  | a, b => compare a.rank b.rank

instance : Ord Value := ⟨cmp⟩

def sort (vs : List Value) : List Value :=
  vs.mergeSort fun a b => (compare a b).isLE

end Value

structure Row where
  values : List Value
  deriving DecidableEq, Inhabited

namespace Row

/-- Rows are ordered by their first difference; a row comes before its extensions. -/
def cmp (a b : Row) : Ordering :=
  compare a.values b.values

instance : Ord Row := ⟨cmp⟩

def sort (rows : List Row) : List Row :=
  rows.mergeSort fun a b => (compare a b).isLE

end Row

end ScriptedDb
