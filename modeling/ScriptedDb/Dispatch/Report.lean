import ScriptedDb.Dispatch.Scan
import ScriptedDb.Event
import ScriptedDb.Expectation.Describe

namespace ScriptedDb

structure Config where
  /-- Calls must come in the order of the declarations. -/
  ordered : Bool := true
  /-- A call that no expectation takes is an error. -/
  requireExpectations : Bool := true
  deriving DecidableEq, Repr, Inhabited

/-- Unordered and strict, for calls that race. -/
def Config.concurrent : Config :=
  { ordered := false }

structure Claim where
  index : Nat
  outcome : Outcome

def describeAt (records : List Expectation) (index : Nat) : String :=
  (records[index]?).elim "" Expectation.describe

def Rejection.error (rejection : Rejection) (call : Call) (expectation : String) : Error :=
  match rejection with
  | .query pattern => .queryMismatch call.label call.query pattern
  | .arguments expected =>
    .argumentMismatch call.label call.query (Value.renderList call.args) expected
  | .conversion failure =>
    .argumentConversion call.label call.query (Value.renderList call.args) expectation failure

namespace Verdict

/-- The answer to a call whose scan saw all of `records`. Descriptions are those of the records as
they are given. A call that is tolerated gets no claim. -/
def answer (strict : Bool) (call : Call) (records : List Expectation) :
    Verdict → Except Error (Option Claim)
  | .claimed index outcome => .ok (some ⟨index, outcome⟩)
  | .outOfOrder index => .error (.unexpectedCall call.describe (describeAt records index))
  | .rejected index rejection => .error (rejection.error call (describeAt records index))
  | .exhausted p =>
    if strict then
      match p.conversion with
      | some (index, failure) =>
        .error ((Rejection.conversion failure).error call (describeAt records index))
      | none => .error (.notExpected call.describe (p.fulfilled == records.length))
    else .ok none

/-- What the log is told. A call that fails to compare in an unordered scan goes unmentioned. -/
def events (strict : Bool) (call : Call) (records : List Expectation) : Verdict → List Event
  | .claimed index _ => [.claimed call.kind index]
  | .outOfOrder index =>
    [.outOfOrder call.kind ((records[index]?).elim call.kind Expectation.kind) index]
  | .rejected _ rejection => [.headRejected call.kind rejection]
  | .exhausted p =>
    if strict then
      match p.conversion with
      | some _ => []
      | none => [.unmatched call.kind records.length p.fulfilled]
    else if p.fulfilled < records.length then
      [.tolerated call.kind (records.length - p.fulfilled)]
    else []

end Verdict

def dispatch (config : Config) (call : Call) (records : List Expectation) :
    Reply (List Expectation) (Option Claim) :=
  let (verdict, records) := scan config.ordered call 0 {} records
  { answer := verdict.answer config.requireExpectations call records
    state := records
    events := verdict.events config.requireExpectations call records }

end ScriptedDb
