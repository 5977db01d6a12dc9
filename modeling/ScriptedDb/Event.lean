import ScriptedDb.Expectation.Basic

/-! What the library tells a log. -/

namespace ScriptedDb

inductive Level where
  | trace
  | debug
  | warn
  deriving DecidableEq, Repr

def Level.name : Level → String
  | .trace => "TRACE"
  | .debug => "DEBUG"
  | .warn => "WARN"

inductive Event where
  | claimed (kind : Kind) (index : Nat)
  | outOfOrder (kind next : Kind) (index : Nat)
  | headRejected (kind : Kind) (rejection : Rejection)
  | unmatched (kind : Kind) (total fulfilled : Nat)
  | tolerated (kind : Kind) (pending : Nat)
  | opened (dsn : String) (count : Nat)
  | closedPending (dsn : String) (pending : Nat)

namespace Event

def level : Event → Level
  | .claimed .. => .trace
  | .outOfOrder .. => .debug
  | .headRejected .. => .debug
  | .unmatched .. => .debug
  | .tolerated .. => .warn
  | .opened .. => .debug
  | .closedPending .. => .warn

def message : Event → String
  | .claimed .. => "expectation claimed"
  | .outOfOrder .. => "call out of order"
  | .headRejected .. => "head expectation rejected call"
  | .unmatched .. => "no expectation matched"
  | .tolerated .. => "unmatched call tolerated while expectations are still pending"
  | .opened .. => "mock connection opened"
  | .closedPending .. => "last connection closed with expectations still pending"

def fields : Event → List (String × String)
  | .claimed kind index => [("kind", kind.name), ("index", toString index)]
  | .outOfOrder kind next index =>
    [("kind", kind.name), ("next", next.name), ("index", toString index)]
  | .headRejected kind rejection => [("kind", kind.name), ("rejection", rejection.debug)]
  | .unmatched kind total fulfilled =>
    [("kind", kind.name), ("total", toString total), ("fulfilled", toString fulfilled)]
  | .tolerated kind pending => [("kind", kind.name), ("pending", toString pending)]
  | .opened dsn count => [("dsn", dsn), ("opened", toString count)]
  | .closedPending dsn pending => [("dsn", dsn), ("pending", toString pending)]

end Event

/-- What an operation leaves behind: its answer, the new state, and what it told the log. -/
structure Reply (σ α : Type) where
  answer : Except Error α
  state : σ
  events : List Event := []

def Reply.map {σ α β : Type} (f : α → β) (r : Reply σ α) : Reply σ β :=
  { answer := r.answer.map f, state := r.state, events := r.events }

end ScriptedDb
