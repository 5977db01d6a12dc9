import ScriptedDb.Expectation.Basic

/-! A refinement may come at any time, also after the claim; it never touches the mark of the claim.
-/

namespace ScriptedDb

inductive Refinement where
  /-- The call fails with a fault. -/
  | error (fault : Fault)
  /-- Closing the statement raises a fault. -/
  | closeError (fault : Fault)
  /-- The statement must be closed. -/
  | mustBeClosed
  /-- The arguments that the call must have. -/
  | args (args : List Argument)
  /-- What an Exec answers. -/
  | result (result : ExecResult)
  /-- What a Query answers. -/
  | rows (rows : Rows)

namespace Expectation

/-- Refine an expectation. An addition that its kind has no place for changes nothing. -/
def refine (e : Expectation) (r : Refinement) : Expectation :=
  match r, e.payload with
  | .error fault, _ => { e with error := some fault }
  | .closeError fault, .prepare pattern _ mustBeClosed closed =>
    { e with payload := .prepare pattern (some fault) mustBeClosed closed }
  | .mustBeClosed, .prepare pattern closeError _ closed =>
    { e with payload := .prepare pattern closeError true closed }
  | .args args, .exec pattern _ result => { e with payload := .exec pattern (some args) result }
  | .args args, .query pattern _ rows => { e with payload := .query pattern (some args) rows }
  | .result result, .exec pattern args _ =>
    { e with payload := .exec pattern args (some result) }
  | .rows rows, .query pattern args _ => { e with payload := .query pattern args (some rows) }
  | _, _ => e

end Expectation

end ScriptedDb
