import ScriptedDb.Dispatch.Report
import ScriptedDb.Session.Request

/-! A turn of a race is one attempt on one expectation, or the moment at which a call draws its
answer from its verdict. Other calls may act between the two, so an answer may describe an
expectation in a later state than the scan saw. -/

namespace ScriptedDb

variable {n : Nat} {α : Type}

/-- A call that races, and how it draws its answer from a verdict and the expectations at that
moment. -/
structure Racer (α : Type) where
  call : Call
  conclude : List Expectation → Verdict → Except Error α

def Call.racer (config : Config) (call : Call) : Racer (Option Claim) where
  call := call
  conclude records verdict := verdict.answer config.requireExpectations call records

def Request.racer (config : Config) (request : Request) : Racer Response where
  call := request.call
  conclude records verdict :=
    request.conclude records (verdict.answer config.requireExpectations request.call records)

@[simp] theorem Call.call_racer (config : Config) (call : Call) :
    (call.racer config).call = call := rfl

@[simp] theorem Request.call_racer (config : Config) (request : Request) :
    (request.racer config).call = request.call := rfl

/-- How far a call has come. -/
inductive Stage (α : Type) where
  /-- The expectation at `next` is attempted next. -/
  | scanning (next : Nat) (progress : Progress)
  | stopped (verdict : Verdict)
  | answered (verdict : Verdict) (answer : Except Error α)

namespace Stage

/-- A scan that has gone past the first `next` of `total` expectations. -/
def reach (total next : Nat) (p : Progress) : Stage α :=
  if next < total then .scanning next p else .stopped (.exhausted p)

/-- What becomes of a scan at `next` that observed an attempt. -/
def proceed (total next : Nat) : Progress ⊕ Verdict → Stage α
  | .inl p => reach total (next + 1) p
  | .inr verdict => .stopped verdict

def verdict? : Stage α → Option Verdict
  | .scanning .. => none
  | .stopped verdict => some verdict
  | .answered verdict _ => some verdict

def claimed? (stage : Stage α) : Option Nat :=
  stage.verdict?.bind Verdict.claimed?

def answer? : Stage α → Option (Except Error α)
  | .answered _ answer => some answer
  | _ => none

end Stage

/-- The shared expectations, and how far every call has come. -/
structure Race (n : Nat) (α : Type) where
  records : List Expectation
  stages : Fin n → Stage α

inductive Turn (n : Nat) where
  | attempt (i : Fin n)
  | answer (i : Fin n)

def Turn.call : Turn n → Fin n
  | .attempt i => i
  | .answer i => i

def Turn.attempt? : Turn n → Option (Fin n)
  | .attempt i => some i
  | .answer _ => none

namespace Race

/-- No call has made an attempt. Without expectations all scans are over. -/
def start (records : List Expectation) : Race n α where
  records := records
  stages _ := .reach records.length 0 {}

def setStage (r : Race n α) (i : Fin n) (stage : Stage α) : Race n α :=
  { r with stages := fun j => if j = i then stage else r.stages j }

def step (ordered : Bool) (racers : Fin n → Racer α) (r : Race n α) : Turn n → Option (Race n α)
  | .attempt i =>
    match r.stages i with
    | .scanning next p =>
      (r.records[next]?).map fun e =>
        let (attempt, e) := e.tryClaim (racers i).call
        { r with records := r.records.set next e }.setStage i
          (.proceed r.records.length next (p.observe ordered next attempt))
    | _ => none
  | .answer i =>
    match r.stages i with
    | .stopped verdict =>
      some (r.setStage i (.answered verdict ((racers i).conclude r.records verdict)))
    | _ => none

def results (r : Race n α) : List (Except Error α) :=
  (List.finRange n).filterMap fun i => (r.stages i).answer?

def wins (r : Race n α) : Nat :=
  (List.finRange n).countP fun i => (r.stages i).claimed?.isSome

def Done (r : Race n α) : Prop :=
  ∀ i, (r.stages i).answer?.isSome

instance (r : Race n α) : Decidable r.Done :=
  inferInstanceAs (Decidable (∀ i, (r.stages i).answer?.isSome = true))

end Race

end ScriptedDb
