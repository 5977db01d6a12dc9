import ScriptedDb.History
import ScriptedDb.Session.Request

namespace ScriptedDb

inductive Session.Operation where
  | expect (kind : Kind) (pattern : String)
  | expectStatementExec (index : Nat)
  | expectStatementQuery (index : Nat)
  | refine (index : Nat) (refinement : Refinement)
  | setOrdered (ordered : Bool)
  | setRequireExpectations (required : Bool)
  | request (request : Request)
  | closeStatement (statement : Prepared)

namespace Session

def quietly (s : Session) : Reply Session Response :=
  { answer := .ok .done, state := s }

def operate (operation : Operation) (s : Session) : Reply Session Response :=
  match operation with
  | .expect kind pattern =>
    match s.expect kind pattern with
    | .ok s => s.quietly
    | .error e => { answer := .error e, state := s }
  | .expectStatementExec index => (s.expectStatementExec index).quietly
  | .expectStatementQuery index => (s.expectStatementQuery index).quietly
  | .refine index refinement => (s.refine index refinement).quietly
  | .setOrdered ordered => (s.setOrdered ordered).quietly
  | .setRequireExpectations required => (s.setRequireExpectations required).quietly
  | .request request => s.serve request
  | .closeStatement statement => (s.closeStatement statement).map fun _ => .done

end Session

end ScriptedDb
