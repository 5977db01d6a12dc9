import ScriptedDb.Proofs.Projection
import ScriptedDb.Proofs.Session.Claims

/-! What a call answers tells whether it has claimed an expectation, so over a run of a strict
session the fulfilled expectations and the served calls correspond one to one. -/

namespace ScriptedDb

/-- A request that was answered by an expectation. -/
def Moment.served (m : Moment Session Session.Operation Response) : Bool :=
  match m.operation with
  | .request _ => delivered m.answer
  | _ => false

/-- What a call of a strict session does: it is served by an expectation that was pending, which it
claims; or it is refused and leaves the session as it is. -/
theorem Moment.request_cases {m : Moment Session Session.Operation Response} {request : Request}
    (hRequest : m.operation = .request request)
    (hStep : m.By Session.operate)
    (hStrict : m.before.config.requireExpectations = true) :
    (m.served = true ∧ ∃ index e, m.before.records[index]? = some e ∧
      e.takes request.call = true ∧ m.answer = request.delivery index e ∧
      m.claims = [index] ∧ m.after = m.before.claim index) ∨
    (m.served = false ∧ refused m.answer = true ∧ m.claims = [] ∧ m.after = m.before) := by
  have hServed : m.served = delivered m.answer := by simp [served, hRequest]
  obtain ⟨hAnswer, hAfter⟩ := hStep.serve hRequest
  rcases m.before.serve_cases request with
    ⟨index, e, he, -, hTakes, -, hDelivery, hState⟩ |
      ⟨-, -, hRefused | ⟨hTolerant, -⟩, hState⟩
  · left
    rw [hDelivery] at hAnswer
    rw [hState] at hAfter
    refine ⟨?_, index, e, he, hTakes, hAnswer, ?_, hAfter⟩
    · rw [hServed, hAnswer, request.delivered_delivery]
    · exact claims_eq_singleton he (Expectation.pending_of_takes hTakes) hAfter
  · right
    rw [← hAnswer] at hRefused
    rw [hState] at hAfter
    refine ⟨?_, hRefused, ?_, hAfter⟩
    · rw [hServed, delivered_eq_false_of_refused hRefused]
    · exact claims_eq_nil (hAfter ▸ .refl _)
  · rw [hStrict] at hTolerant
    cases hTolerant

/-- A call of a strict session claims one expectation if it is served, and nothing else claims. -/
theorem Moment.length_claims {m : Moment Session Session.Operation Response}
    (hStep : m.By Session.operate)
    (hStrict : m.before.config.requireExpectations = true) :
    m.claims.length = if m.served then 1 else 0 := by
  by_cases hRequest : ∃ request, m.operation = .request request
  · obtain ⟨request, hRequest⟩ := hRequest
    rcases request_cases hRequest hStep hStrict with
      ⟨hServed, index, e, -, -, -, hClaims, -⟩ | ⟨hServed, -, hClaims, -⟩
    · simp [hServed, hClaims]
    · simp [hServed, hClaims]
  · have hNone : m.served = false := by
      unfold served
      split
      · rename_i request hEq
        exact absurd ⟨request, hEq⟩ hRequest
      · rfl
    have hNothing := hStep.claimsNothing fun request hEq => hRequest ⟨request, hEq⟩
    simp [hNone, claims_eq_nil hNothing]

theorem length_flatMap_eq_countP {β γ : Type} {f : β → List γ} {p : β → Bool} {l : List β}
    (h : ∀ b ∈ l, (f b).length = if p b then 1 else 0) : (l.flatMap f).length = l.countP p := by
  induction l with
  | nil => rfl
  | cons b l ih =>
    rw [List.flatMap_cons, List.length_append, h b List.mem_cons_self,
      ih fun b' hb' => h b' (List.mem_cons_of_mem _ hb'), List.countP_cons, Nat.add_comm]

namespace World

/-- Exactly-once accounting. Over any run in which a session stays strict, the expectations that
become fulfilled are as many as the calls that were answered with a success or with an error that
an expectation caused. Each of those calls was answered by an expectation of its own. Every other
call was refused and left the session as it was. -/
theorem exactly_once (w : World) {id : SessionId} (hId : id < w.sessions.length)
    (ops : List Operation)
    (hStrict : ∀ m ∈ w.momentsOf id ops, m.before.config.requireExpectations = true) :
    ((afterAll operate ops w).session id).fulfilledCount =
        (w.session id).fulfilledCount + (w.momentsOf id ops).countP Moment.served ∧
      ((w.momentsOf id ops).flatMap Moment.claims).Nodup ∧
      (∀ m ∈ w.momentsOf id ops, ∀ request, m.operation = .request request →
        (m.served = true → ∃ index e, m.before.records[index]? = some e ∧
          e.takes request.call = true ∧ m.answer = request.delivery index e ∧
          m.claims = [index] ∧ m.after = m.before.claim index) ∧
        (m.served = false → refused m.answer = true ∧ m.after = m.before)) ∧
      ∀ m ∈ w.momentsOf id ops, m.served = false → m.claims = [] := by
  have hMoments := w.momentsOf_eq hId ops
  have hStep (m : Moment Session Session.Operation Response) (hm : m ∈ w.momentsOf id ops) :
      m.By Session.operate := by
    rw [hMoments] at hm
    exact by_of_mem_history hm
  refine ⟨?_, ?_, ?_, ?_⟩
  · have hLength : ((w.momentsOf id ops).flatMap Moment.claims).length =
        (w.momentsOf id ops).countP Moment.served :=
      length_flatMap_eq_countP fun m hm => m.length_claims (hStep m hm) (hStrict m hm)
    rw [session_afterAll hId, Session.fulfilledCount_afterAll, ← hMoments, hLength]
  · rw [hMoments]
    exact (Session.nodup_claims _ _).1
  · intro m hm request hRequest
    rcases m.request_cases hRequest (hStep m hm) (hStrict m hm) with
      ⟨hServed, hClaim⟩ | ⟨hServed, hRefused, -, hSame⟩
    · exact ⟨fun _ => hClaim, fun hNot => absurd hServed (by simp [hNot])⟩
    · exact ⟨fun hYes => absurd hServed (by simp [hYes]), fun _ => ⟨hRefused, hSame⟩⟩
  · intro m hm hServed
    have hLength := m.length_claims (hStep m hm) (hStrict m hm)
    rw [hServed] at hLength
    exact List.eq_nil_of_length_eq_zero hLength

/-- A transaction is expected once and begun twice on one connection. -/
theorem exactly_once_begin_twice :
    ∃ (w : World) (ops : List Operation),
      ops = [.direct 0 (.expect .begin ""), .beginOn ⟨0, 0⟩, .beginOn ⟨0, 0⟩] ∧
      (∀ m ∈ w.momentsOf 0 ops, m.before.config.requireExpectations = true) ∧
      (w.momentsOf 0 ops).map Moment.served = [false, true, false] ∧
      ((afterAll operate ops w).session 0).fulfilledCount =
        (w.session 0).fulfilledCount + (w.momentsOf 0 ops).countP Moment.served := by
  have hStrict : ∀ m ∈ momentsOf 0
      [.direct 0 (.expect .begin ""), .beginOn ⟨0, 0⟩, .beginOn ⟨0, 0⟩]
      { sessions := [{ dsn := "" }] }, m.before.config.requireExpectations = true := by decide
  exact ⟨_, _, rfl, hStrict, rfl, (exactly_once _ (by decide) _ hStrict).1⟩

end World

end ScriptedDb
