import Mathlib.Data.List.Basic
import ScriptedDb.Proofs.Dispatch
import ScriptedDb.Session.Request

/-! A request claims the first expectation that its scan may claim and is answered by that alone, or
it leaves the session as it is. `Session.serve_cases` says this once. -/

namespace ScriptedDb

namespace Error

/-- The call was refused: no expectation was claimed. -/
def isRefusal : Error → Bool
  | .unexpectedCall .. | .notExpected .. | .queryMismatch .. | .argumentMismatch ..
  | .argumentConversion .. => true
  | _ => false

/-- The call was taken, and what took it made it fail. -/
def isDelivery : Error → Bool
  | .injected _ | .missingOutcome .. | .fixture _ => true
  | _ => false

theorem isDelivery_eq_false_of_isRefusal {e : Error} (h : e.isRefusal = true) :
    e.isDelivery = false := by
  cases e <;> first | rfl | cases h

end Error

/-- An answer that a claimed expectation gives: a success, or an error that it causes. -/
def delivered {α : Type} : Except Error α → Bool
  | .ok _ => true
  | .error e => e.isDelivery

def refused {α : Type} : Except Error α → Bool
  | .ok _ => false
  | .error e => e.isRefusal

theorem delivered_eq_false_of_refused {α : Type} {answer : Except Error α}
    (h : refused answer = true) : delivered answer = false := by
  cases answer with
  | ok => cases h
  | error e => exact e.isDelivery_eq_false_of_isRefusal h

namespace Request

def missing (request : Request) (what : String) (e : Expectation) : Error :=
  .missingOutcome request.call.label request.call.query (Value.renderList request.call.args) what
    e.fulfil.describe

/-- What the expectation at an index answers a request that claims it: its fault first, then what
the kind of the request delivers. -/
def delivery (request : Request) (index : Nat) (e : Expectation) : Except Error Response :=
  match e.error with
  | some fault => .error (.injected fault)
  | none =>
    match request with
    | .prepare text => .ok (.prepared (some ⟨normalizeQuery text, e.outcome.closeError, index⟩))
    | .exec .. =>
      match e.outcome.result with
      | some result => .ok (.result (some result))
      | none => .error (request.missing "result" e)
    | .query .. =>
      match e.outcome.rows with
      | some rows => rows.validated.map fun rows => .rows (some rows)
      | none => .error (request.missing "rows" e)
    | _ => .ok .done

/-- What a tolerated request answers. -/
def nothing : Request → Response
  | .prepare _ => .prepared none
  | .exec .. => .result none
  | .query .. => .rows none
  | _ => .done

end Request

/-- Rows are refused only for what is wrong with them. -/
theorem Rows.isDelivery_of_validated {rows : Rows} {e : Error} (h : rows.validated = .error e) :
    e.isDelivery = true := by
  simp only [Rows.validated, Rows.validate] at h
  split at h
  · cases h
  · rename_i hInvalid
    split at hInvalid
    · cases hInvalid
    · cases hInvalid
      cases h
      rfl

theorem Request.delivered_delivery (request : Request) (index : Nat) (e : Expectation) :
    delivered (request.delivery index e) = true := by
  unfold delivery
  cases e.error with
  | some fault => rfl
  | none =>
    cases request with
    | close | begin | commit | rollback | prepare => rfl
    | exec => cases e.outcome.result <;> rfl
    | query =>
      cases e.outcome.rows with
      | none => rfl
      | some rows =>
        cases hRows : rows.validated with
        | ok => simp [hRows, delivered, Except.map]
        | error e => simp [hRows, delivered, Except.map, Rows.isDelivery_of_validated hRows]

theorem Expectation.error_outcome (e : Expectation) : e.outcome.error = e.error := by
  unfold outcome
  cases e.payload <;> rfl

/-- A claim is answered by the claimed expectation alone. -/
theorem Request.conclude_claim (request : Request) {records : List Expectation} {index : Nat}
    {e : Expectation} (he : records[index]? = some e.fulfil) :
    request.conclude records (.ok (some ⟨index, e.outcome⟩)) = request.delivery index e := by
  have hError := e.error_outcome
  unfold Request.delivery
  cases hFault : e.error with
  | some fault => cases request <;> simp [conclude, Session.settle, hError, hFault, Except.map]
  | none =>
    cases request with
    | close | begin | commit | rollback | prepare =>
      simp [conclude, Session.settle, hError, hFault, Session.deliverNothing,
        Session.deliverStatement, Except.map]
    | exec =>
      cases hResult : e.outcome.result <;>
        simp [conclude, Session.settle, hError, hFault, Session.deliverResult, hResult, Except.map,
          Session.missing, Request.missing, describeAt, he]
    | query =>
      cases hRows : e.outcome.rows with
      | none =>
        simp [conclude, Session.settle, hError, hFault, Session.deliverRows, hRows, Except.map,
          Session.missing, Request.missing, describeAt, he]
      | some rows =>
        cases hValid : rows.validated <;>
          simp [conclude, Session.settle, hError, hFault, Session.deliverRows, hRows, Except.map,
            hValid]

@[simp] theorem Request.conclude_error (request : Request) (records : List Expectation)
    (e : Error) : request.conclude records (.error e) = .error e := by
  cases request <;> rfl

@[simp] theorem Request.conclude_none (request : Request) (records : List Expectation) :
    request.conclude records (.ok none) = .ok request.nothing := by
  cases request <;> rfl

theorem Expectation.isRefusal_refusal (e : Expectation) (call : Call) :
    (e.refusal call).isRefusal = true := by
  unfold refusal
  split
  · rename_i rejection _
    cases rejection <;> rfl
  · rfl

/-- A call that nothing stops is refused if it is strict, and tolerated otherwise. -/
theorem unmatched_cases (strict : Bool) (call : Call) (records : List Expectation) :
    (∃ e, unmatched strict call records = .error e ∧ e.isRefusal = true) ∨
      (strict = false ∧ unmatched strict call records = .ok none) := by
  cases strict with
  | false => exact .inr ⟨rfl, rfl⟩
  | true =>
    left
    rcases unmatched_strict call records with ⟨text, failure, hError⟩ | hError
    · exact ⟨_, hError, rfl⟩
    · exact ⟨_, hError, rfl⟩

/-- All that a dispatch can do. It claims the first expectation that its scan may claim; or there is
none, and it changes nothing and delivers nothing. -/
theorem dispatch_cases (config : Config) (call : Call) (records : List Expectation) :
    (∃ index e, records[index]? = some e ∧ Passes config.ordered call records index ∧
      e.takes call = true ∧
      (dispatch config call records).answer = .ok (some ⟨index, e.outcome⟩) ∧
      (dispatch config call records).state = records.set index e.fulfil) ∨
    ((∀ index e, records[index]? = some e → Passes config.ordered call records index →
        e.takes call = false) ∧
      ((∃ e, (dispatch config call records).answer = .error e ∧ e.isRefusal = true) ∨
        (config.requireExpectations = false ∧
          (dispatch config call records).answer = .ok none)) ∧
      (dispatch config call records).state = records) := by
  rcases exists_first_or_forall (Expectation.stops config.ordered call) records with
    ⟨index, e, hFirst⟩ | hNone
  · cases hTakes : e.takes call with
    | true =>
      left
      obtain ⟨hAnswer, hState⟩ := dispatch_of_first_takes config hFirst hTakes
      exact ⟨index, e, hFirst.found, hFirst.before, hTakes, hAnswer, hState⟩
    | false =>
      right
      obtain ⟨hAnswer, hState⟩ := dispatch_of_first_refuses config hFirst hTakes
      refine ⟨fun j e' he' hPasses => ?_, .inl ⟨_, hAnswer, e.isRefusal_refusal call⟩, hState⟩
      cases hTakes' : e'.takes call with
      | false => rfl
      | true =>
        -- Whatever else could be claimed would stop the scan too, and there is one place to stop.
        obtain ⟨rfl, rfl⟩ := Passes.eq_of_stops hFirst.before hFirst.found hFirst.holds hPasses he'
          (Expectation.stops_of_takes _ hTakes')
        rw [hTakes] at hTakes'
        cases hTakes'
  · right
    obtain ⟨hAnswer, hState⟩ := dispatch_of_none config hNone
    rw [hAnswer]
    refine ⟨fun j e he _ => ?_, unmatched_cases _ call records, hState⟩
    exact Expectation.takes_eq_false_of_stops_eq_false (hNone e (List.mem_of_getElem? he))

def Session.claimFor? (s : Session) (request : Request) : Option Claim :=
  match (dispatch s.config request.call s.records).answer with
  | .ok claim? => claim?
  | .error _ => none

def Session.claim (s : Session) (index : Nat) : Session :=
  { s with records := s.records.modify index Expectation.fulfil }

/-- All that a request can do. It claims the first expectation that its scan may claim, which
answers it; or there is none, and the session stays as it is. -/
theorem Session.serve_cases (request : Request) (s : Session) :
    (∃ index e, s.records[index]? = some e ∧
      Passes s.config.ordered request.call s.records index ∧ e.takes request.call = true ∧
      s.claimFor? request = some ⟨index, e.outcome⟩ ∧
      (s.serve request).answer = request.delivery index e ∧
      (s.serve request).state = s.claim index) ∨
    ((∀ index e, s.records[index]? = some e →
        Passes s.config.ordered request.call s.records index → e.takes request.call = false) ∧
      s.claimFor? request = none ∧
      (refused (s.serve request).answer = true ∨
        (s.config.requireExpectations = false ∧
          (s.serve request).answer = .ok request.nothing)) ∧
      (s.serve request).state = s) := by
  rw [serve_answer, serve_state]
  rcases dispatch_cases s.config request.call s.records with
    ⟨index, e, he, hPasses, hTakes, hAnswer, hState⟩ | ⟨hNone, hAnswer, hState⟩
  · left
    obtain ⟨hLt, -⟩ := List.getElem?_eq_some_iff.mp he
    refine ⟨index, e, he, hPasses, hTakes, by simp only [claimFor?, hAnswer], ?_, ?_⟩
    · rw [hAnswer, hState]
      exact request.conclude_claim (List.getElem?_set_self hLt)
    · rw [hState, claim, List.modify_eq_set_getElem?, he]
      rfl
  · right
    rw [hState]
    rcases hAnswer with ⟨e, hAnswer, hRefusal⟩ | ⟨hTolerant, hAnswer⟩
    · refine ⟨hNone, by simp only [claimFor?, hAnswer], .inl ?_, rfl⟩
      rw [hAnswer, Request.conclude_error]
      exact hRefusal
    · refine ⟨hNone, by simp only [claimFor?, hAnswer], .inr ⟨hTolerant, ?_⟩, rfl⟩
      rw [hAnswer, Request.conclude_none]

end ScriptedDb
