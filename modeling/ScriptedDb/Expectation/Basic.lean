import ScriptedDb.Argument
import ScriptedDb.Call
import ScriptedDb.ExecResult
import ScriptedDb.QueryPattern
import ScriptedDb.Rows.Basic

/-! `Expectation.tryClaim` is the only way to claim an expectation and happens at once: it tests the
call, marks the expectation and takes a copy of the outcome declared so far. -/

namespace ScriptedDb

/-- What an expectation expects and, for kinds that answer with data, what it answers. -/
inductive Payload where
  | close
  | begin
  | commit
  | rollback
  /-- A statement for a matching query; closing it may raise a fault. If it must be closed,
  verification asks whether it was. -/
  | prepare (pattern : QueryPattern) (closeError : Option Fault) (mustBeClosed closed : Bool)
  | exec (pattern : QueryPattern) (args : Option (List Argument)) (result : Option ExecResult)
  | query (pattern : QueryPattern) (args : Option (List Argument)) (rows : Option Rows)

namespace Payload

def kind : Payload → Kind
  | .close => .close
  | .begin => .begin
  | .commit => .commit
  | .rollback => .rollback
  | .prepare .. => .prepare
  | .exec .. => .exec
  | .query .. => .query

def pattern? : Payload → Option QueryPattern
  | .prepare pattern .. => some pattern
  | .exec pattern .. => some pattern
  | .query pattern .. => some pattern
  | _ => none

def args? : Payload → Option (List Argument)
  | .exec _ args _ => args
  | .query _ args _ => args
  | _ => none

end Payload

structure Expectation where
  payload : Payload
  /-- Whether a call has claimed it. -/
  fulfilled : Bool := false
  /-- The fault that its call fails with. -/
  error : Option Fault := none

structure Outcome where
  error : Option Fault := none
  result : Option ExecResult := none
  rows : Option Rows := none
  closeError : Option Fault := none

/-- Why an expectation of the right kind refuses a call. -/
inductive Rejection where
  | query (pattern : String)
  | arguments (expected : String)
  | conversion (failure : Incomparable)

def Rejection.debug : Rejection → String
  | .query pattern => "Query \x7b pattern: " ++ Text.quoted pattern ++ " \x7d"
  | .arguments expected => "Arguments \x7b expected: " ++ Text.quoted expected ++ " \x7d"
  | .conversion failure => s!"Conversion({failure.debug})"

inductive Attempt where
  | alreadyFulfilled
  | wrongKind
  | rejected (rejection : Rejection)
  | claimed (outcome : Outcome)

namespace Expectation

def kind (e : Expectation) : Kind :=
  e.payload.kind

/-- What the expectation hands out when it is claimed now. -/
def outcome (e : Expectation) : Outcome :=
  match e.payload with
  | .prepare _ closeError _ _ => { error := e.error, closeError }
  | .exec _ _ result => { error := e.error, result }
  | .query _ _ rows => { error := e.error, rows }
  | _ => { error := e.error }

/-- Why the expectation refuses a call of its kind, if it does. The query is tested before the
arguments. -/
def rejection? (e : Expectation) (call : Call) : Option Rejection :=
  match e.payload.pattern? with
  | some pattern =>
    if pattern.isMatch call.query then rejectedArguments? else some (.query pattern.text)
  | none => rejectedArguments?
where
  /-- Why the expectation refuses the arguments of the call, if it does. -/
  rejectedArguments? : Option Rejection :=
    match Argument.acceptsAll e.payload.args? call.args with
    | .ok true => none
    | .ok false => some (.arguments (e.payload.args?.elim "<any>" Argument.renderList))
    | .error failure => some (.conversion failure)

def attempt (e : Expectation) (call : Call) : Attempt :=
  if e.fulfilled then .alreadyFulfilled
  else if e.kind ≠ call.kind then .wrongKind
  else
    match e.rejection? call with
    | some rejection => .rejected rejection
    | none => .claimed e.outcome

/-- Try to claim the expectation for a call; only success changes it. -/
def tryClaim (e : Expectation) (call : Call) : Attempt × Expectation :=
  match e.attempt call with
  | .claimed outcome => (.claimed outcome, { e with fulfilled := true })
  | attempt => (attempt, e)

def markClosed (e : Expectation) : Expectation :=
  match e.payload with
  | .prepare pattern closeError mustBeClosed _ =>
    { e with payload := .prepare pattern closeError mustBeClosed true }
  | _ => e

/-- Whether a statement must be closed and was not. -/
def awaitsClose (e : Expectation) : Bool :=
  match e.payload with
  | .prepare _ _ mustBeClosed closed => mustBeClosed && !closed
  | _ => false

end Expectation

end ScriptedDb
