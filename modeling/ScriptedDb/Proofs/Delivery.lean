import ScriptedDb.Proofs.Projection
import ScriptedDb.Proofs.Rectangular
import ScriptedDb.Proofs.Session.Declared

/-! `Request.Due` says what is due to a request by what was declared on the expectation that it
claims. Only refinements of that expectation before the claim play a part. -/

namespace ScriptedDb

open Refinement

/-- What is due to a request that claims the expectation `e` at `index`, of which `rs` was said. -/
inductive Request.Due (index : Nat) (e : Expectation) (rs : List Refinement) :
    Request → Except Error Response → Prop where
  /-- The fault that was declared last, whatever else was declared. -/
  | fault {request : Request} {fault : Fault} : lastOf fault? rs = some fault →
      Due index e rs request (.error (.injected fault))
  | done {request : Request} : lastOf fault? rs = none → request.call.kind.hasQuery = false →
      Due index e rs request (.ok .done)
  /-- A statement, with the fault for its close that was declared last. -/
  | statement {text : String} : lastOf fault? rs = none →
      Due index e rs (.prepare text)
        (.ok (.prepared (some ⟨normalizeQuery text, lastOf closeFault? rs, index⟩)))
  | result {text : String} {args : List Value} {result : ExecResult} : lastOf fault? rs = none →
      lastOf result? rs = some result →
      Due index e rs (.exec text args) (.ok (.result (some result)))
  | noResult {text : String} {args : List Value} : lastOf fault? rs = none →
      lastOf result? rs = none →
      Due index e rs (.exec text args) (.error ((Request.exec text args).missing "result" e))
  | rows {text : String} {args : List Value} {rows : Rows} : lastOf fault? rs = none →
      lastOf rows? rs = some rows → rows.Rectangular →
      Due index e rs (.query text args) (.ok (.rows (some rows)))
  | ragged {text : String} {args : List Value} {rows : Rows} {i : Nat} {row : Row} :
      lastOf fault? rs = none → lastOf rows? rs = some rows → rows.FirstRagged i row →
      Due index e rs (.query text args)
        (.error (.fixture (.raggedRow i row.values.length rows.columns.length)))
  | noRows {text : String} {args : List Value} : lastOf fault? rs = none →
      lastOf rows? rs = none →
      Due index e rs (.query text args) (.error ((Request.query text args).missing "rows" e))

/-- An expectation that hands out what was said of it answers a request with what is due. -/
theorem Request.due_delivery {request : Request} {e : Expectation} {rs : List Refinement}
    (index : Nat) (hKind : e.kind = request.call.kind)
    (hOutcome : e.outcome = .declared e.kind rs) :
    request.Due index e rs (request.delivery index e) := by
  rw [hKind] at hOutcome
  have hError : e.error = lastOf fault? rs := by rw [← e.error_outcome, hOutcome]; rfl
  unfold delivery
  rw [hError, hOutcome]
  cases hFault : lastOf fault? rs with
  | some fault => exact .fault hFault
  | none =>
    cases request with
    | close | begin | commit | rollback => exact .done hFault rfl
    | prepare text => exact .statement hFault
    | exec text args =>
      have hResult : (Outcome.declared .exec rs).result = lastOf result? rs := rfl
      simp only [call, hResult]
      cases hLast : lastOf result? rs with
      | some result => exact .result hFault hLast
      | none => exact .noResult hFault hLast
    | query text args =>
      have hRows : (Outcome.declared .query rs).rows = lastOf rows? rs := rfl
      simp only [call, hRows]
      cases hLast : lastOf rows? rs with
      | none => exact .noRows hFault hLast
      | some rows =>
        rcases rows.validated_cases with ⟨hRectangular, hValid⟩ | ⟨i, row, hFirst, hInvalid⟩
        · simp only [hValid]
          exact .rows hFault hLast hRectangular
        · simp only [hInvalid]
          exact .ragged hFault hLast hFirst

/-- A statement is due only to a Prepare, with the fault for its close that was declared last. -/
theorem Request.Due.closeError_eq {request : Request} {index : Nat} {e : Expectation}
    {rs : List Refinement} {p : Prepared} (h : request.Due index e rs (.ok (.prepared (some p)))) :
    p.closeError = lastOf closeFault? rs := by
  cases h
  rfl

/-- A request that claims an expectation is answered with what is due by what was said of it. -/
theorem Session.due_of_claimFor? {s : Session} {ms : Chronicle} (hRecalls : s.Recalls ms)
    {request : Request} {claim : Claim} (hClaim : s.claimFor? request = some claim) :
    ∃ e, s.records[claim.index]? = some e ∧ e.takes request.call = true ∧
      request.Due claim.index e (Chronicle.refinements ms claim.index) (s.serve request).answer ∧
      (s.serve request).state = s.claim claim.index := by
  rcases s.serve_cases request with
    ⟨index, e, he, -, hTakes, hClaimed, hDelivery, hState⟩ | ⟨-, hNone, -, -⟩
  · obtain rfl := Option.some.inj (hClaimed.symm.trans hClaim)
    have hKind := Expectation.kind_of_takes hTakes
    refine ⟨e, he, hTakes, ?_, hState⟩
    rw [hDelivery]
    exact request.due_delivery index hKind (hRecalls.outcome index e he)
  · rw [hNone] at hClaim
    cases hClaim

namespace World

/-- A request on a session that claims an expectation, of which `rs` was said, delivers what was
declared: the answer is what is due, a transaction is one of the same session, and a statement is
one that closes with the fault declared last before the claim, whatever happens until then. -/
structure Delivers (w : World) (id : SessionId) (operation : Operation) (request : Request)
    (index : Nat) (rs : List Refinement) : Prop where
  due : ∃ e, (w.session id).records[index]? = some e ∧ e.takes request.call = true ∧
    request.Due index e rs (w.operate operation).answer
  claimed : (w.operate operation).state.session id = (w.session id).claim index
  transaction : request = .begin →
    (w.begin id).answer = (w.operate operation).answer.map fun _ => ⟨id⟩
  statement (text : String) : request = .prepare text → lastOf fault? rs = none →
    ∃ st : Statement, (w.prepare id text).answer = .ok (some st) ∧ st.session = id ∧
      ∀ later : List Operation,
        ((afterAll operate later (w.operate operation).state).closeStatement st).answer =
          match lastOf closeFault? rs with
          | some fault => .error (.injected fault)
          | none => .ok ()

variable {w : World} {id : SessionId} {operation : Operation} {request : Request}

theorem delivers_of_claimFor? {ms : Chronicle} (hId : id < w.sessions.length)
    (hOn : operation.on? id = some (.request request)) (hRecalls : (w.session id).Recalls ms)
    {claim : Claim} (hClaim : (w.session id).claimFor? request = some claim) :
    w.Delivers id operation request claim.index (Chronicle.refinements ms claim.index) := by
  obtain ⟨hAnswer, hState⟩ := operate_of_on? hOn hId
  obtain ⟨e, he, hTakes, hDue, hClaimed⟩ := Session.due_of_claimFor? hRecalls hClaim
  refine ⟨⟨e, he, hTakes, hAnswer ▸ hDue⟩, hState.trans hClaimed, ?_, ?_⟩
  · rintro rfl
    rw [hAnswer]
    simp only [begin, on, Session.operate, Session.serve, Reply.map]
    cases (w.session id).begin.answer <;> rfl
  · rintro text rfl hFault
    have hServe : ((w.session id).serve (.prepare text)).answer =
        ((w.session id).prepare text).answer.map .prepared := rfl
    rw [hServe] at hDue
    cases hPrepare : ((w.session id).prepare text).answer with
    | error error =>
      rw [hPrepare] at hDue
      cases hDue with
      | fault hSome =>
        rw [hFault] at hSome
        cases hSome
    | ok p? =>
      rw [hPrepare] at hDue
      cases p? with
      | none => cases hDue
      | some p =>
        refine ⟨⟨id, p⟩, by simp only [prepare, on, hPrepare]; rfl, rfl, fun later => ?_⟩
        rw [← hDue.closeError_eq]
        rfl

/-- What a run delivers. Where a request claims an expectation, it delivers what was declared last on
this very expectation before the claim. Where it claims none, it is refused or tolerated with
nothing to deliver. -/
theorem claim_delivers (w : World) (hId : id < w.sessions.length)
    (hNew : (w.session id).records = []) (earlier : List Operation)
    (hOn : operation.on? id = some (.request request)) :
    (∀ claim, ((afterAll operate earlier w).session id).claimFor? request = some claim →
      (afterAll operate earlier w).Delivers id operation request claim.index
        (Chronicle.refinements (w.momentsOf id earlier) claim.index)) ∧
    (((afterAll operate earlier w).session id).claimFor? request = none →
      (refused ((afterAll operate earlier w).operate operation).answer = true ∨
        ((afterAll operate earlier w).operate operation).answer = .ok request.nothing) ∧
      ((afterAll operate earlier w).operate operation).state.session id =
        (afterAll operate earlier w).session id) := by
  have hThere := lt_length_afterAll earlier hId
  have hRecalls : ((afterAll operate earlier w).session id).Recalls (w.momentsOf id earlier) := by
    rw [session_afterAll hId, momentsOf_eq hId]
    exact Session.recalls_afterAll hNew _
  refine ⟨fun claim hClaim => delivers_of_claimFor? hThere hOn hRecalls hClaim, fun hNone => ?_⟩
  obtain ⟨hAnswer, hState⟩ := operate_of_on? hOn hThere
  rw [hAnswer, hState]
  rcases ((afterAll operate earlier w).session id).serve_cases request with
    ⟨_, _, _, _, _, hClaimed, _, _⟩ | ⟨-, -, hOutcome, hSame⟩
  · rw [hNone] at hClaimed
    cases hClaimed
  · exact ⟨hOutcome.imp_right And.right, hSame⟩

/-- A statement closes with the fault that was declared last before it was handed out, also when
another one is declared before it is closed. -/
theorem claim_delivers_statement :
    ∃ (w : World) (first second late : Fault) (st : Statement) (ops : List Operation),
      first ≠ second ∧ late ≠ second ∧
      ops = [.direct 0 (.expect .prepare "^$"), .direct 0 (.expect .prepare "^$"),
        .direct 0 (.refine 1 (.closeError late)), .direct 0 (.refine 0 (.closeError first)),
        .direct 0 (.refine 0 (.closeError second))] ∧
      ((afterAll operate ops w).prepare 0 "").answer = .ok (some st) ∧
      ((afterAll operate [.direct 0 (.refine 0 (.closeError late))]
        ((afterAll operate ops w).operate (.prepareOn ⟨0, 0⟩ "")).state).closeStatement st).answer =
          .error (.injected second) := by
  let w : World := { sessions := [{ dsn := "" }] }
  let first : Fault := ⟨0, .message ""⟩
  let second : Fault := ⟨1, .message ""⟩
  let late : Fault := ⟨2, .message ""⟩
  let ops : List Operation := [.direct 0 (.expect .prepare "^$"),
    .direct 0 (.expect .prepare "^$"), .direct 0 (.refine 1 (.closeError late)),
    .direct 0 (.refine 0 (.closeError first)), .direct 0 (.refine 0 (.closeError second))]
  have hId : 0 < w.sessions.length := by decide
  have hOn : Operation.on? 0 (.prepareOn ⟨0, 0⟩ "") = some (.request (.prepare "")) := rfl
  obtain ⟨hDelivers, -⟩ := claim_delivers w hId rfl ops hOn
  obtain ⟨st, hPrepare, -, hClose⟩ := (hDelivers ⟨0, _⟩ rfl).statement "" rfl rfl
  exact ⟨w, first, second, late, st, ops, by decide, by decide, rfl, hPrepare, hClose _⟩

end World

end ScriptedDb
