import ScriptedDb.Session.Basic

/-! A call is dispatched and then answered from the outcome of its claim: a declared fault comes
first, then what the kind of the call delivers. -/

namespace ScriptedDb

/-- What a successful Prepare hands out: the normalized query, the fault that closing raises, and
the index of the expectation. -/
structure Prepared where
  query : String
  closeError : Option Fault
  record : Nat

namespace Session

variable {α : Type}

/-- The answer to a dispatched call: `deliver` turns a claim without a fault into an answer, given
the expectations after the claim. -/
def settle (deliver : List Expectation → Claim → Except Error α) (records : List Expectation) :
    Except Error (Option Claim) → Except Error (Option α)
  | .error e => .error e
  | .ok none => .ok none
  | .ok (some claim) =>
    match claim.outcome.error with
    | some fault => .error (.injected fault)
    | none => (deliver records claim).map some

def perform (s : Session) (call : Call)
    (deliver : List Expectation → Claim → Except Error α) : Reply Session (Option α) :=
  let r := dispatch s.config call s.records
  { answer := settle deliver r.state r.answer
    state := { s with records := r.state }
    events := r.events }

def deliverNothing (_ : List Expectation) (_ : Claim) : Except Error Unit :=
  .ok ()

def performBare (s : Session) (kind : Kind) : Reply Session Unit :=
  (s.perform (.bare kind) deliverNothing).map fun _ => ()

def close (s : Session) : Reply Session Unit :=
  s.performBare .close

/-- Begin a transaction. The transaction is the session itself, so it begins also where a tolerant
session had nothing to match. -/
def begin (s : Session) : Reply Session Unit :=
  s.performBare .begin

def commit (s : Session) : Reply Session Unit :=
  s.performBare .commit

def rollback (s : Session) : Reply Session Unit :=
  s.performBare .rollback

def deliverStatement (query : String) (_ : List Expectation) (claim : Claim) :
    Except Error Prepared :=
  .ok ⟨query, claim.outcome.closeError, claim.index⟩

def prepare (s : Session) (query : String) : Reply Session (Option Prepared) :=
  let query := normalizeQuery query
  s.perform { kind := .prepare, query } (deliverStatement query)

def missing (call : Call) (what : String) (records : List Expectation) (claim : Claim) : Error :=
  .missingOutcome call.label call.query (Value.renderList call.args) what
    (describeAt records claim.index)

def deliverResult (call : Call) (records : List Expectation) (claim : Claim) :
    Except Error ExecResult :=
  match claim.outcome.result with
  | some result => .ok result
  | none => .error (missing call "result" records claim)

def exec (s : Session) (query : String) (args : List Value) :
    Reply Session (Option ExecResult) :=
  let call : Call := { kind := .exec, query := normalizeQuery query, args }
  s.perform call (deliverResult call)

/-- Deliver the declared rows, all of which must have one value for every column. -/
def deliverRows (call : Call) (records : List Expectation) (claim : Claim) : Except Error Rows :=
  match claim.outcome.rows with
  | some rows => rows.validated
  | none => .error (missing call "rows" records claim)

def query (s : Session) (query : String) (args : List Value) : Reply Session (Option Rows) :=
  let call : Call := { kind := .query, query := normalizeQuery query, args }
  s.perform call (deliverRows call)

def closeStatement (s : Session) (p : Prepared) : Reply Session Unit :=
  { answer := match p.closeError with
      | some fault => .error (.injected fault)
      | none => .ok ()
    state := { s with records := s.records.modify p.record Expectation.markClosed } }

end Session

end ScriptedDb
