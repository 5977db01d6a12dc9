import ScriptedDb.Dispatch.Report
import ScriptedDb.Expectation.Refinement

/-! Expectations are only ever added at the end, so the index of an expectation is its name for the
life of its session. -/

namespace ScriptedDb

structure Session where
  dsn : String
  config : Config := {}
  records : List Expectation := []
  deriving Inhabited

namespace Session

def setOrdered (s : Session) (ordered : Bool) : Session :=
  { s with config := { s.config with ordered } }

def setRequireExpectations (s : Session) (required : Bool) : Session :=
  { s with config := { s.config with requireExpectations := required } }

def declare (s : Session) (payload : Payload) : Session :=
  { s with records := s.records ++ [{ payload }] }

/-- Declare an operation of a kind. Kinds with a query take a pattern; one that cannot be read
declares nothing. -/
def expect (s : Session) (kind : Kind) (pattern : String := "") : Except Error Session :=
  match kind with
  | .close => .ok (s.declare .close)
  | .begin => .ok (s.declare .begin)
  | .commit => .ok (s.declare .commit)
  | .rollback => .ok (s.declare .rollback)
  | .prepare => (QueryPattern.ofText pattern).map fun p => s.declare (.prepare p none false false)
  | .exec => (QueryPattern.ofText pattern).map fun p => s.declare (.exec p none none)
  | .query => (QueryPattern.ofText pattern).map fun p => s.declare (.query p none none)

def patternAt? (s : Session) (index : Nat) : Option QueryPattern :=
  s.records[index]?.bind fun e => e.payload.pattern?

def expectStatementExec (s : Session) (index : Nat) : Session :=
  match s.patternAt? index with
  | some p => s.declare (.exec p none none)
  | none => s

def expectStatementQuery (s : Session) (index : Nat) : Session :=
  match s.patternAt? index with
  | some p => s.declare (.query p none none)
  | none => s

def refine (s : Session) (index : Nat) (r : Refinement) : Session :=
  { s with records := s.records.modify index (·.refine r) }

def isFulfilled (s : Session) (index : Nat) : Bool :=
  (s.records[index]?).any Expectation.fulfilled

def fulfilledCount (s : Session) : Nat :=
  s.records.countP Expectation.fulfilled

def pendingCount (s : Session) : Nat :=
  s.records.countP fun e => !e.fulfilled

def firstUnfulfilled? (s : Session) : Option Expectation :=
  s.records.find? fun e => !e.fulfilled

/-- What is wrong with an expectation when the script should be done. -/
def unmet? (e : Expectation) : Option Error :=
  if !e.fulfilled then some (.unfulfilledExpectation e.describe)
  else if e.awaitsClose then some (.statementNotClosed e.describe)
  else none

/-- Verify that the script is done: every expectation was claimed, and every statement that had to
be closed was. The first expectation that fails this is reported. -/
def verify (s : Session) : Except Error Unit :=
  match s.records.findSome? unmet? with
  | some e => .error e
  | none => .ok ()

end Session

end ScriptedDb
