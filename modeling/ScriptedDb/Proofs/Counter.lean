import ScriptedDb.Proofs.Projection
import ScriptedDb.Proofs.Session.Claims

/-! As long as a session is ordered its fulfilled expectations are the first ones, so their number
is a counter into the script. -/

namespace ScriptedDb

/-- What an ordered session answers a request when its counter is at an index and the given
expectation, if any, is there. -/
def Request.answerAt (strict : Bool) (request : Request) (index : Nat) :
    Option Expectation → Except Error Response
  | some e =>
    if e.fits request.call then request.delivery index e
    else .error (e.refusal request.call)
  | none =>
    if strict then .error (.notExpected request.call.describe true) else .ok request.nothing

namespace Session

variable {s s' : Session} {index : Nat} {e : Expectation}

def next? (s : Session) : Option Expectation :=
  s.records[s.fulfilledCount]?

/-- The fulfilled expectations are the first ones. -/
def FulfilledPrefix (s : Session) : Prop :=
  ∀ index, s.isFulfilled index = true ↔ index < s.fulfilledCount

namespace FulfilledPrefix

theorem of_records_eq_nil (h : s.records = []) : s.FulfilledPrefix := by
  intro index
  simp [isFulfilled, fulfilledCount, h]

theorem of_claimsNothing (h : s.FulfilledPrefix) (hNothing : s.ClaimsNothing s') :
    s'.FulfilledPrefix := by
  intro index
  rw [hNothing.isFulfilled_eq, hNothing.fulfilledCount_eq, h index]

theorem pending_of_next? (h : s.FulfilledPrefix) (he : s.next? = some e) :
    e.fulfilled = false := by
  have hNot : ¬ s.isFulfilled s.fulfilledCount = true := by simp [h s.fulfilledCount]
  have he : s.records[s.fulfilledCount]? = some e := he
  simpa [isFulfilled, he] using hNot

/-- A claim at the counter moves it on by one. -/
theorem claim (h : s.FulfilledPrefix) (he : s.next? = some e) :
    (s.claim s.fulfilledCount).FulfilledPrefix := by
  intro index
  rw [isFulfilled_claim he, fulfilledCount_claim he (h.pending_of_next? he), Bool.or_eq_true,
    beq_iff_eq, h index]
  omega

theorem fulfilled_of_mem_take (h : s.FulfilledPrefix)
    (he : e ∈ s.records.take s.fulfilledCount) : e.fulfilled = true := by
  obtain ⟨index, hLt, rfl⟩ := List.mem_take_iff_getElem.mp he
  have hDone := (h index).mpr (by omega)
  rw [isFulfilled, List.getElem?_eq_getElem (by omega)] at hDone
  exact hDone

/-- Where the counter is past the end, everything is fulfilled. -/
theorem fulfilled_of_next?_eq_none (h : s.FulfilledPrefix) (hNext : s.next? = none) :
    ∀ e ∈ s.records, e.fulfilled = true := by
  have hLe : s.records.length ≤ s.fulfilledCount := List.getElem?_eq_none_iff.mp hNext
  intro e he
  apply h.fulfilled_of_mem_take
  rwa [List.take_of_length_le hLe]

/-- An expectation at the counter is where an ordered scan stops. -/
theorem first_of_next? (h : s.FulfilledPrefix) (hNext : s.next? = some e) (call : Call) :
    First (Expectation.stops true call) s.records s.fulfilledCount e where
  found := hNext
  holds := by simp [Expectation.stops, h.pending_of_next? hNext]
  before := by
    intro e' he'
    exact Expectation.stops_of_fulfilled (h.fulfilled_of_mem_take he') true call

end FulfilledPrefix

/-- What a request does to an ordered session depends on the expectation at the counter only, and
changes no other one. -/
theorem serve_at_counter (hOrdered : s.config.ordered = true) (h : s.FulfilledPrefix)
    (request : Request) :
    (s.serve request).answer =
        request.answerAt s.config.requireExpectations s.fulfilledCount s.next? ∧
      (s.serve request).state =
        if s.next?.any (·.fits request.call) then s.claim s.fulfilledCount else s := by
  rw [serve_answer, serve_state]
  cases hNext : s.next? with
  | none =>
    obtain ⟨hAnswer, hState⟩ := dispatch_of_all_fulfilled s.config request.call
      (h.fulfilled_of_next?_eq_none hNext)
    rw [hAnswer, hState]
    refine ⟨?_, rfl⟩
    cases hStrict : s.config.requireExpectations <;> simp [Request.answerAt]
  | some e =>
    have he : s.records[s.fulfilledCount]? = some e := hNext
    have hFirst : First (Expectation.stops s.config.ordered request.call) s.records
        s.fulfilledCount e := hOrdered ▸ h.first_of_next? hNext request.call
    have hTakes : e.takes request.call = e.fits request.call := by
      simp [Expectation.takes, h.pending_of_next? hNext]
    cases hFits : e.fits request.call with
    | true =>
      obtain ⟨hAnswer, hState⟩ := dispatch_of_first_takes s.config hFirst (hTakes.trans hFits)
      obtain ⟨hLt, -⟩ := List.getElem?_eq_some_iff.mp he
      rw [hAnswer, hState]
      refine ⟨?_, ?_⟩
      · simp only [Request.answerAt, hFits, ↓reduceIte]
        exact request.conclude_claim (List.getElem?_set_self hLt)
      · rw [Option.any_some, hFits, if_pos rfl, Session.claim, List.modify_eq_set_getElem?, he]
        rfl
    | false =>
      obtain ⟨hAnswer, hState⟩ := dispatch_of_first_refuses s.config hFirst (hTakes.trans hFits)
      rw [hAnswer, hState]
      simp [Request.answerAt, hFits]

/-- The counter moves exactly where the expectation at it takes the call. -/
theorem fulfilledCount_serve_at_counter (hOrdered : s.config.ordered = true)
    (h : s.FulfilledPrefix) (request : Request) :
    (s.serve request).state.fulfilledCount =
      if s.next?.any (·.fits request.call) then s.fulfilledCount + 1 else s.fulfilledCount := by
  rw [(serve_at_counter hOrdered h request).2]
  split
  · rename_i hHit
    obtain ⟨e, hNext, -⟩ := (Option.any_eq_true _ _).mp hHit
    exact fulfilledCount_claim hNext (h.pending_of_next? hNext)
  · rfl

/-- Two ordered sessions whose counters agree, and what is at them, cannot be told apart by a
request. -/
theorem serve_congr_at_counter (hOrdered : s.config.ordered = true)
    (hConfig : s'.config = s.config) (h : s.FulfilledPrefix) (h' : s'.FulfilledPrefix)
    (hCount : s'.fulfilledCount = s.fulfilledCount) (hNext : s'.next? = s.next?)
    (request : Request) :
    (s'.serve request).answer = (s.serve request).answer ∧
      (s'.serve request).state.fulfilledCount = (s.serve request).state.fulfilledCount := by
  have hOrdered' : s'.config.ordered = true := hConfig ▸ hOrdered
  rw [(serve_at_counter hOrdered h request).1, (serve_at_counter hOrdered' h' request).1,
    fulfilledCount_serve_at_counter hOrdered h, fulfilledCount_serve_at_counter hOrdered' h',
    hConfig, hCount, hNext]
  exact ⟨rfl, rfl⟩

end Session

namespace Moment

variable {m : Moment Session Session.Operation Response} {request : Request}

/-- A request as a step of a program counter: the expectation at the counter decides whether it is
claimed and what the answer is, and the counter moves only where it is claimed. -/
structure CountsOn (m : Moment Session Session.Operation Response) (request : Request) : Prop where
  answer : m.answer = request.answerAt m.before.config.requireExpectations
    m.before.fulfilledCount m.before.next?
  hit : m.before.next?.any (·.fits request.call) = true →
    m.claims = [m.before.fulfilledCount] ∧ m.after = m.before.claim m.before.fulfilledCount ∧
      m.after.fulfilledCount = m.before.fulfilledCount + 1
  miss : m.before.next?.any (·.fits request.call) = false → m.claims = [] ∧ m.after = m.before

theorem countsOn (hRequest : m.operation = .request request) (hStep : m.By Session.operate)
    (hOrdered : m.before.config.ordered = true) (hPrefix : m.before.FulfilledPrefix) :
    m.CountsOn request := by
  obtain ⟨hAnswer, hAfter⟩ := hStep.serve hRequest
  obtain ⟨hServed, hState⟩ := Session.serve_at_counter hOrdered hPrefix request
  have hCount := Session.fulfilledCount_serve_at_counter hOrdered hPrefix request
  rw [← hAfter] at hCount
  refine ⟨hAnswer.trans hServed, fun hHit => ?_, fun hMiss => ?_⟩
  · rw [hState, if_pos hHit] at hAfter
    rw [if_pos hHit] at hCount
    obtain ⟨e, hNext, -⟩ := (Option.any_eq_true _ _).mp hHit
    exact ⟨claims_eq_singleton hNext (hPrefix.pending_of_next? hNext) hAfter, hAfter, hCount⟩
  · rw [hState, if_neg (by simp [hMiss])] at hAfter
    exact ⟨claims_eq_nil (hAfter ▸ .refl _), hAfter⟩

/-- What any operation does to an ordered session: nothing is claimed, or what is at the counter. -/
theorem counter_cases (hStep : m.By Session.operate) (hOrdered : m.before.config.ordered = true)
    (hPrefix : m.before.FulfilledPrefix) :
    m.after.FulfilledPrefix ∧
      ((m.claims = [] ∧ m.after.fulfilledCount = m.before.fulfilledCount) ∨
        (m.claims = [m.before.fulfilledCount] ∧
          m.after.fulfilledCount = m.before.fulfilledCount + 1)) := by
  by_cases hRequest : ∃ request, m.operation = .request request
  · obtain ⟨request, hRequest⟩ := hRequest
    have hCounts := countsOn hRequest hStep hOrdered hPrefix
    cases hHit : m.before.next?.any (·.fits request.call) with
    | true =>
      obtain ⟨hClaims, hAfter, hCount⟩ := hCounts.hit hHit
      obtain ⟨e, hNext, -⟩ := (Option.any_eq_true _ _).mp hHit
      exact ⟨hAfter ▸ hPrefix.claim hNext, .inr ⟨hClaims, hCount⟩⟩
    | false =>
      obtain ⟨hClaims, hAfter⟩ := hCounts.miss hHit
      rw [hAfter]
      exact ⟨hPrefix, .inl ⟨hClaims, rfl⟩⟩
  · have hNothing := hStep.claimsNothing fun request hEq => hRequest ⟨request, hEq⟩
    exact ⟨hPrefix.of_claimsNothing hNothing,
      .inl ⟨claims_eq_nil hNothing, hNothing.fulfilledCount_eq⟩⟩

end Moment

/-- As long as a session is ordered, the fulfilled expectations stay the first ones, and a run
claims one after another from the counter on. -/
theorem Session.counter_history {ops : List Operation} {s : Session} (hPrefix : s.FulfilledPrefix)
    (hOrdered : ∀ m ∈ history operate ops s, m.before.config.ordered = true) :
    (∀ m ∈ history operate ops s, m.before.FulfilledPrefix ∧ m.after.FulfilledPrefix) ∧
      (history operate ops s).flatMap Moment.claims =
        List.range' s.fulfilledCount ((history operate ops s).flatMap Moment.claims).length := by
  induction ops generalizing s with
  | nil => simp
  | cons op ops ih =>
    rw [history_cons, List.forall_mem_cons] at hOrdered
    obtain ⟨hAfter, hClaims⟩ := Moment.counter_cases
      (m := ⟨s, op, (s.operate op).answer, (s.operate op).state⟩) ⟨rfl, rfl⟩ hOrdered.1 hPrefix
    obtain ⟨hMoments, hRange⟩ := ih hAfter hOrdered.2
    rw [history_cons, List.forall_mem_cons, List.flatMap_cons]
    refine ⟨⟨⟨hPrefix, hAfter⟩, hMoments⟩, ?_⟩
    rcases hClaims with ⟨hClaims, hCount⟩ | ⟨hClaims, hCount⟩
    · have hCount : (s.operate op).state.fulfilledCount = s.fulfilledCount := hCount
      rw [hClaims, List.nil_append, ← hCount]
      exact hRange
    · have hCount : (s.operate op).state.fulfilledCount = s.fulfilledCount + 1 := hCount
      rw [hCount] at hRange
      rw [hClaims, List.singleton_append, List.length_cons, List.range'_succ]
      exact congrArg _ hRange

namespace World

/-- An ordered session refines a program counter. Over any run in which a new session stays ordered,
its fulfilled expectations are the first ones at every moment. Every request is a step of the
counter: it claims the expectation that the counter points at or none, whatever the other
expectations are. So the expectations are claimed in the order of their declaration. -/
theorem ordered_session_refines_counter (w : World) {id : SessionId}
    (hId : id < w.sessions.length) (hNew : (w.session id).records = []) (ops : List Operation)
    (hOrdered : ∀ m ∈ w.momentsOf id ops, m.before.config.ordered = true) :
    (∀ m ∈ w.momentsOf id ops, m.before.FulfilledPrefix ∧ m.after.FulfilledPrefix) ∧
      (∀ m ∈ w.momentsOf id ops, ∀ request, m.operation = .request request →
        m.CountsOn request ∧
        ∀ s : Session, s.config = m.before.config → s.FulfilledPrefix →
          s.fulfilledCount = m.before.fulfilledCount → s.next? = m.before.next? →
          (s.serve request).answer = m.answer ∧
            (s.serve request).state.fulfilledCount = m.after.fulfilledCount) ∧
      (w.momentsOf id ops).flatMap Moment.claims =
        List.range ((afterAll operate ops w).session id).fulfilledCount := by
  have hMoments := w.momentsOf_eq hId ops
  rw [hMoments] at hOrdered ⊢
  obtain ⟨hPrefixes, hRange⟩ :=
    Session.counter_history (.of_records_eq_nil hNew) hOrdered
  have hZero : (w.session id).fulfilledCount = 0 := by simp [Session.fulfilledCount, hNew]
  refine ⟨hPrefixes, ?_, ?_⟩
  · intro m hm request hRequest
    have hStep := by_of_mem_history hm
    have hPrefix := (hPrefixes m hm).1
    refine ⟨m.countsOn hRequest hStep (hOrdered m hm) hPrefix, ?_⟩
    intro s hConfig hPrefix' hCount hNext
    obtain ⟨hAnswer, hAfter⟩ := hStep.serve hRequest
    rw [hAnswer, hAfter]
    exact Session.serve_congr_at_counter (hOrdered m hm) hConfig hPrefix hPrefix' hCount hNext
      request
  · rw [session_afterAll hId, Session.fulfilledCount_afterAll, hZero, Nat.zero_add,
      List.range_eq_range']
    rwa [hZero] at hRange

/-- Two expectations are declared and met out of order, then in order. -/
theorem ordered_session_refines_counter_begin_commit :
    ∃ (w : World) (ops : List Operation),
      ops = [.direct 0 (.expect .begin ""), .direct 0 (.expect .commit ""), .commit ⟨0⟩,
        .beginOn ⟨0, 0⟩, .commit ⟨0⟩] ∧
      (∀ m ∈ w.momentsOf 0 ops, m.before.config.ordered = true) ∧
      (w.momentsOf 0 ops).map Moment.claims = [[], [], [], [0], [1]] ∧
      (w.momentsOf 0 ops).flatMap Moment.claims =
        List.range ((afterAll operate ops w).session 0).fulfilledCount := by
  have hOrdered : ∀ m ∈ momentsOf 0 [.direct 0 (.expect .begin ""), .direct 0 (.expect .commit ""),
      .commit ⟨0⟩, .beginOn ⟨0, 0⟩, .commit ⟨0⟩] { sessions := [{ dsn := "" }] },
      m.before.config.ordered = true := by decide
  exact ⟨_, _, rfl, hOrdered, by decide,
    (ordered_session_refines_counter _ (by decide) rfl _ hOrdered).2.2⟩

end World

end ScriptedDb
