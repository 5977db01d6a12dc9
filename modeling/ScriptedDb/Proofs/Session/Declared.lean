import ScriptedDb.Proofs.Session.Chronicle

/-! `Outcome.declared` is what a list of refinements comes to: each thing as it was said last. A
refinement speaks of the expectation at its index only if there is one by then. -/

namespace ScriptedDb

namespace Refinement

def fault? : Refinement → Option Fault
  | .error fault => some fault
  | _ => none

def closeFault? : Refinement → Option Fault
  | .closeError fault => some fault
  | _ => none

def result? : Refinement → Option ExecResult
  | .result declared => some declared
  | _ => none

def rows? : Refinement → Option Rows
  | .rows declared => some declared
  | _ => none

variable {α : Type} (what : Refinement → Option α)

/-- What was said last of the things that are asked for. -/
def lastOf (rs : List Refinement) : Option α :=
  (rs.filterMap what).getLast?

@[simp] theorem lastOf_nil : lastOf what [] = none := rfl

@[simp] theorem lastOf_concat (rs : List Refinement) (r : Refinement) :
    lastOf what (rs ++ [r]) = (what r).or (lastOf what rs) := by
  rw [lastOf, List.filterMap_append, List.getLast?_append, lastOf]
  cases h : what r <;> simp [h]

end Refinement

open Refinement

/-- What refinements of an expectation come to, given its kind: each thing as it was said last, and
only what the kind has a place for. -/
def Outcome.declared (kind : Kind) (rs : List Refinement) : Outcome where
  error := lastOf fault? rs
  result := if kind = .exec then lastOf result? rs else none
  rows := if kind = .query then lastOf rows? rs else none
  closeError := if kind = .prepare then lastOf closeFault? rs else none

namespace Expectation

variable {e : Expectation} {rs : List Refinement}

@[simp] theorem outcome_fulfil (e : Expectation) : e.fulfil.outcome = e.outcome := rfl

@[simp] theorem outcome_markClosed (e : Expectation) : e.markClosed.outcome = e.outcome := by
  unfold markClosed outcome
  cases h : e.payload <;> simp [h]

theorem outcome_refine (h : e.outcome = .declared e.kind rs) (r : Refinement) :
    (e.refine r).outcome = .declared e.kind (rs ++ [r]) := by
  unfold outcome kind Outcome.declared at *
  cases r <;> cases hPayload : e.payload <;>
    simp_all [refine, Payload.kind, fault?, closeFault?, result?, rows?]

end Expectation

def Moment.refinement? (m : Moment Session Session.Operation Response) (index : Nat) :
    Option Refinement :=
  match m.operation with
  | .refine i r => if i = index ∧ index < m.before.records.length then some r else none
  | _ => none

/-- What was said of the expectation at an index, in order. -/
def Chronicle.refinements (ms : Chronicle) (index : Nat) : List Refinement :=
  ms.filterMap (·.refinement? index)

theorem Chronicle.refinements_concat (ms : Chronicle)
    (m : Moment Session Session.Operation Response) (index : Nat) :
    refinements (ms ++ [m]) index = refinements ms index ++ (m.refinement? index).toList := by
  rw [refinements, List.filterMap_append, refinements]
  cases h : m.refinement? index <;> simp [h]

/-- Nothing is said of what is not there yet. -/
theorem Moment.refinement?_eq_none {m : Moment Session Session.Operation Response} {index : Nat}
    (h : m.before.records.length ≤ index) : m.refinement? index = none := by
  unfold refinement?
  split
  · rw [if_neg (by omega)]
  · rfl

namespace Session

variable {s : Session} {ms : Chronicle} {index : Nat} {e : Expectation}

/-- Every expectation would hand out what its own refinements come to. Nothing was said of
expectations that are still to come. -/
structure Recalls (s : Session) (ms : Chronicle) : Prop where
  outcome (index : Nat) (e : Expectation) : s.records[index]? = some e →
    e.outcome = .declared e.kind (Chronicle.refinements ms index)
  ahead (index : Nat) : s.records.length ≤ index → Chronicle.refinements ms index = []

theorem Recalls.of_records_eq_nil (h : s.records = []) : s.Recalls [] where
  outcome index e he := by simp [h] at he
  ahead _ _ := rfl

/-- What a moment makes of an expectation adds what it says of it, and nothing else. -/
theorem outcome_rework {m : Moment Session Operation Response} {rs : List Refinement}
    (he : m.before.records[index]? = some e) (h : e.outcome = .declared e.kind rs) :
    (m.before.rework m.operation index e).outcome =
      .declared e.kind (rs ++ (m.refinement? index).toList) := by
  obtain ⟨hLt, -⟩ := List.getElem?_eq_some_iff.mp he
  unfold rework Moment.refinement?
  cases m.operation with
  | refine i r =>
    by_cases hi : i = index
    · simpa [hi, hLt] using Expectation.outcome_refine h r
    · simpa [hi] using h
  | closeStatement p =>
    by_cases hp : p.record = index <;> simpa [hp] using h
  | request request =>
    by_cases hClaim : (m.before.claimFor? request).map Claim.index = some index <;>
      simpa [hClaim] using h
  | expect | expectStatementExec | expectStatementQuery | setOrdered | setRequireExpectations =>
    simpa using h

theorem Recalls.concat {m : Moment Session Operation Response} (h : m.before.Recalls ms)
    (hStep : m.By operate) : m.after.Recalls (ms ++ [m]) where
  outcome index e' he' := by
    rw [Chronicle.refinements_concat]
    cases he : m.before.records[index]? with
    | some e =>
      rw [hStep.2, getElem?_operate m.operation he, Option.some.injEq] at he'
      rw [← he', kind_rework]
      exact outcome_rework he (h.outcome index e he)
    | none =>
      have hLe : m.before.records.length ≤ index := List.getElem?_eq_none_iff.mp he
      rw [h.ahead index hLe, Moment.refinement?_eq_none hLe]
      -- What is there now was declared in this moment, with nothing to hand out.
      rcases m.before.records_operate_cases m.operation with
        ⟨-, hRecords⟩ | ⟨new, -, hOutcome, -, hRecords⟩
      · rw [hStep.2, hRecords, List.getElem?_mapIdx, he] at he'
        cases he'
      · rw [hStep.2, hRecords] at he'
        rw [List.getElem?_append_right (by simpa using hLe)] at he'
        obtain rfl : e' = new := by simpa using List.mem_of_getElem? he'
        rw [hOutcome]
        simp [Outcome.declared]
  ahead index hLe := by
    have hBefore : m.before.records.length ≤ index := by
      rw [hStep.2] at hLe
      obtain ⟨added, -, hRecords⟩ := m.before.records_operate m.operation
      rw [hRecords, List.length_append, List.length_mapIdx] at hLe
      omega
    rw [Chronicle.refinements_concat, h.ahead index hBefore, Moment.refinement?_eq_none hBefore]
    rfl

/-- After every run of a new session, its expectations hand out what was said of them last. -/
theorem recalls_afterAll (hNew : s.records = []) (ops : List Operation) :
    (afterAll operate ops s).Recalls (history operate ops s) := by
  induction ops using List.reverseRecOn with
  | nil => exact .of_records_eq_nil hNew
  | append_singleton ops op ih =>
    rw [history_concat, afterAll_append]
    exact ih.concat (m := ⟨_, op, _, _⟩) ⟨rfl, rfl⟩

end Session

end ScriptedDb
