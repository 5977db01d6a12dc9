import ScriptedDb.Session.Calls

/-! The calls of a session as data, with one type for what all of them answer. -/

namespace ScriptedDb

inductive Request where
  | close
  | begin
  | commit
  | rollback
  | prepare (text : String)
  | exec (text : String) (args : List Value)
  | query (text : String) (args : List Value)

/-- What a request answers when it succeeds. A tolerated request delivers nothing. -/
inductive Response where
  | done
  | prepared (statement : Option Prepared)
  | result (result : Option ExecResult)
  | rows (rows : Option Rows)

namespace Request

def call : Request → Call
  | .close => .bare .close
  | .begin => .bare .begin
  | .commit => .bare .commit
  | .rollback => .bare .rollback
  | .prepare text => { kind := .prepare, query := normalizeQuery text }
  | .exec text args => { kind := .exec, query := normalizeQuery text, args }
  | .query text args => { kind := .query, query := normalizeQuery text, args }

/-- The answer to a request whose call was dispatched, drawn from the expectations as they are
given. -/
def conclude (request : Request) (records : List Expectation)
    (dispatched : Except Error (Option Claim)) : Except Error Response :=
  match request with
  | .prepare text =>
    (Session.settle (Session.deliverStatement (normalizeQuery text)) records dispatched).map
      .prepared
  | .exec .. =>
    (Session.settle (Session.deliverResult request.call) records dispatched).map .result
  | .query .. =>
    (Session.settle (Session.deliverRows request.call) records dispatched).map .rows
  | _ => (Session.settle Session.deliverNothing records dispatched).map fun _ => .done

end Request

namespace Session

def serve (request : Request) (s : Session) : Reply Session Response :=
  match request with
  | .close => s.close.map fun _ => .done
  | .begin => s.begin.map fun _ => .done
  | .commit => s.commit.map fun _ => .done
  | .rollback => s.rollback.map fun _ => .done
  | .prepare text => (s.prepare text).map .prepared
  | .exec text args => (s.exec text args).map .result
  | .query text args => (s.query text args).map .rows

theorem serve_answer (request : Request) (s : Session) :
    (s.serve request).answer =
      request.conclude (dispatch s.config request.call s.records).state
        (dispatch s.config request.call s.records).answer := by
  cases request
  case prepare | exec | query => rfl
  all_goals
    simp only [serve, close, begin, commit, rollback, performBare, perform, Reply.map,
      Request.conclude, Request.call]
    generalize settle deliverNothing _ _ = answer
    cases answer <;> rfl

theorem serve_state (request : Request) (s : Session) :
    (s.serve request).state =
      { s with records := (dispatch s.config request.call s.records).state } := by
  cases request <;> rfl

end Session

end ScriptedDb
