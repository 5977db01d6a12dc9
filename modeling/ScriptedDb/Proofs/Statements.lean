import ScriptedDb.Proofs.Permanence
import ScriptedDb.Proofs.Session.Chronicle
import ScriptedDb.Proofs.Words

/-! Every call of a statement normalizes its text once more, which changes nothing. What was
declared through a Prepare has the pattern of the Prepare, and no pattern ever changes. -/

namespace ScriptedDb

namespace Expectation

variable {e : Expectation}

/-- What matches the pattern is not refused for its query. -/
theorem rejection?_ne_query {p : QueryPattern} (hPattern : e.payload.pattern? = some p) {call : Call}
    (hMatch : p.isMatch call.query = true) (text : String) :
    e.rejection? call ≠ some (.query text) := by
  unfold rejection? rejection?.rejectedArguments?
  rw [hPattern]
  simp only [hMatch, if_true]
  split <;> simp

theorem attempt_ne_rejected_query {p : QueryPattern} (hPattern : e.payload.pattern? = some p)
    {call : Call} (hMatch : p.isMatch call.query = true) (text : String) :
    e.attempt call ≠ .rejected (.query text) := by
  intro hRejected
  unfold attempt at hRejected
  split at hRejected
  · cases hRejected
  · split at hRejected
    · cases hRejected
    · split at hRejected
      · rename_i hRejection
        cases hRejected
        exact rejection?_ne_query hPattern hMatch text hRejection
      · cases hRejected

theorem exists_pattern_of_prepare (h : e.kind = .prepare) : ∃ p, e.payload.pattern? = some p := by
  unfold kind at h
  cases hPayload : e.payload with
  | prepare p => exact ⟨p, rfl⟩
  | close | begin | commit | rollback | exec | query =>
    rw [hPayload] at h
    cases h

end Expectation

namespace Session

variable {s : Session}

/-- A statement that was handed out has the normal form of its text, and comes from a Prepare whose
pattern matches it. -/
theorem prepared_spec {text : String} {prepared : Prepared}
    (h : (s.prepare text).answer = .ok (some prepared)) :
    prepared.query = normalizeQuery text ∧ ∃ e p, s.records[prepared.record]? = some e ∧
      e.payload.pattern? = some p ∧ p.isMatch (normalizeQuery text) = true := by
  have hServe : (s.serve (.prepare text)).answer = .ok (.prepared (some prepared)) := by
    simp only [serve, Reply.map, h, Except.map]
  rcases s.serve_cases (.prepare text) with
    ⟨index, e, he, -, hTakes, -, hDelivery, -⟩ | ⟨-, -, hRefused | ⟨-, hNothing⟩, -⟩
  · rw [hDelivery] at hServe
    obtain ⟨rfl, -⟩ := Request.record_of_delivery hServe
    have hQuery : prepared.query = normalizeQuery text := by
      unfold Request.delivery at hServe
      cases hFault : e.error with
      | some fault => simp [hFault] at hServe
      | none =>
        simp only [hFault, Except.ok.injEq, Response.prepared.injEq, Option.some.injEq] at hServe
        rw [← hServe]
    obtain ⟨p, hPattern⟩ := Expectation.exists_pattern_of_prepare (Expectation.kind_of_takes hTakes)
    have hFits := Expectation.fits_of_takes hTakes
    simp only [Expectation.fits, hPattern, Option.all_some, Bool.and_eq_true] at hFits
    exact ⟨hQuery, e, p, he, hPattern, hFits.1.2⟩
  · rw [hServe] at hRefused
    cases hRefused
  · rw [hServe] at hNothing
    cases hNothing

end Session

/-- The kind of what the moment declares through the Prepare at an index. -/
def Moment.declaredThrough? (m : Moment Session Session.Operation Response) (index : Nat) :
    Option Kind :=
  match m.operation with
  | .expectStatementExec i => if i = index ∧ index < m.before.records.length then some .exec else none
  | .expectStatementQuery i =>
    if i = index ∧ index < m.before.records.length then some .query else none
  | _ => none

/-- What is declared through an expectation takes over its pattern. -/
theorem Moment.declares?_of_declaredThrough? {m : Moment Session Session.Operation Response}
    {index : Nat} {kind : Kind} (h : m.declaredThrough? index = some kind) {e : Expectation}
    (he : m.before.records[index]? = some e) {p : QueryPattern}
    (hPattern : e.payload.pattern? = some p) :
    m.before.declares? m.operation = some (kind, some p) := by
  unfold declaredThrough? at h
  split at h
  · rename_i i hOperation
    split at h
    · rename_i hIndex
      cases h
      simp [hOperation, Session.declares?, Session.patternAt?, hIndex.1, he, hPattern]
    · cases h
  · rename_i i hOperation
    split at h
    · rename_i hIndex
      cases h
      simp [hOperation, Session.declares?, Session.patternAt?, hIndex.1, he, hPattern]
    · cases h
  · cases h

theorem Moment.lt_of_declaredThrough? {m : Moment Session Session.Operation Response} {index : Nat}
    {kind : Kind} (h : m.declaredThrough? index = some kind) : index < m.before.records.length := by
  unfold declaredThrough? at h
  split at h
  · split at h
    · rename_i hIndex
      exact hIndex.2
    · cases h
  · split at h
    · rename_i hIndex
      exact hIndex.2
    · cases h
  · cases h

namespace Session

variable {s : Session} {ops : List Operation} {m : Moment Session Operation Response}

/-- What was declared through an expectation has its pattern, at the end as in the beginning. -/
theorem exists_of_declaredThrough? (hm : m ∈ history operate ops s) {index : Nat} {kind : Kind}
    (hThrough : m.declaredThrough? index = some kind) {e : Expectation}
    (he : (afterAll operate ops s).records[index]? = some e) {p : QueryPattern}
    (hPattern : e.payload.pattern? = some p) :
    ∃ e', (afterAll operate ops s).records[m.before.records.length]? = some e' ∧ e'.kind = kind ∧
      e'.payload.pattern? = some p := by
  obtain ⟨later, hLater⟩ := exists_afterAll_of_mem_history hm
  have hAfter : m.after = (m.before.operate m.operation).state := (by_of_mem_history hm).2
  have hGrows : m.after.Grows (afterAll operate ops s) := hLater ▸ grows_afterAll later m.after
  -- Whatever happened in between, the expectation had the same pattern when it was declared through.
  obtain ⟨declared, hDeclared⟩ : ∃ declared, m.before.records[index]? = some declared :=
    ⟨_, List.getElem?_eq_getElem (Moment.lt_of_declaredThrough? hThrough)⟩
  obtain ⟨e₁, he₁, hBecomes⟩ := (hAfter ▸ m.before.grows_operate m.operation).trans hGrows index _
    hDeclared
  obtain rfl : e₁ = e := Option.some.inj (he₁.symm.trans he)
  obtain ⟨new, hNew, -, hKind, hNewPattern⟩ := getElem?_of_declares?
    (Moment.declares?_of_declaredThrough? hThrough hDeclared (hBecomes.pattern?.symm.trans hPattern))
  rw [← hAfter] at hNew
  obtain ⟨e', he', hBecomes'⟩ := hGrows _ new hNew
  exact ⟨e', he', hBecomes'.kind.trans hKind, hBecomes'.pattern?.trans hNewPattern⟩

end Session

namespace World

/-- The statement works in every world as its session does with the text: with the same answer, the
same state and the same log. -/
structure StandsFor (st : Statement) (text : String) : Prop where
  exec (w : World) (args : List Value) :
    w.execStatement st args = w.on st.session (·.exec text args)
  query (w : World) (args : List Value) :
    w.queryStatement st args = w.on st.session (·.query text args)

theorem standsFor_of_query {st : Statement} {text : String}
    (h : st.prepared.query = normalizeQuery text) : StandsFor st text where
  exec w args := by
    simp only [execStatement, Session.exec, h, normalizeQuery_normalizeQuery]
  query w args := by
    simp only [queryStatement, Session.query, h, normalizeQuery_normalizeQuery]

variable {w : World} {id : SessionId}

theorem prepare_answer_ok {text : String} {st : Statement}
    (h : (w.prepare id text).answer = .ok (some st)) :
    st.session = id ∧ ((w.session id).prepare text).answer = .ok (some st.prepared) := by
  simp only [prepare, on] at h
  cases hAnswer : ((w.session id).prepare text).answer with
  | error e => simp [hAnswer, Except.map] at h
  | ok prepared? =>
    cases prepared? with
    | none => simp [hAnswer, Except.map] at h
    | some prepared =>
      simp only [hAnswer, Except.map, Option.map_some, Except.ok.injEq, Option.some.injEq] at h
      rw [← h]
      exact ⟨rfl, rfl⟩

/-- Statements are transparent. A statement that a Prepare hands out in a run works, whatever becomes of
the world, as its session does with the text as it was given. Whatever else happens, every Exec and every
Query that is declared through the expectation it comes from, before or after, refuses none of its calls
for the query. -/
theorem statement_transparent (w : World) (hId : id < w.sessions.length)
    (earlier later : List Operation) {text : String} {st : Statement}
    (hPrepare : ((afterAll operate earlier w).prepare id text).answer = .ok (some st)) :
    st.session = id ∧ StandsFor st text ∧
      ∀ m ∈ w.momentsOf id (earlier ++ later), ∀ kind,
        m.declaredThrough? st.prepared.record = some kind →
        ∃ e, ((afterAll operate (earlier ++ later) w).session id).records[
            m.before.records.length]? = some e ∧ e.kind = kind ∧
          ∀ args pattern,
            e.attempt (Request.exec st.prepared.query args).call ≠ .rejected (.query pattern) ∧
            e.attempt (Request.query st.prepared.query args).call ≠ .rejected (.query pattern) := by
  obtain ⟨hSession, hAnswer⟩ := prepare_answer_ok hPrepare
  rw [session_afterAll hId] at hAnswer
  obtain ⟨hQuery, e, p, he, hPattern, hMatch⟩ := Session.prepared_spec hAnswer
  refine ⟨hSession, standsFor_of_query hQuery, fun m hm kind hThrough => ?_⟩
  rw [momentsOf_eq hId] at hm
  rw [session_afterAll hId]
  have hGrows : (afterAll Session.operate (earlier.filterMap (·.on? id)) (w.session id)).Grows
      (afterAll Session.operate ((earlier ++ later).filterMap (·.on? id))
        (w.session id)) := by
    rw [List.filterMap_append, afterAll_append]
    exact Session.grows_afterAll _ _
  obtain ⟨e₁, he₁, hBecomes⟩ := hGrows _ e he
  obtain ⟨e', he', hKind, hPattern'⟩ :=
    Session.exists_of_declaredThrough? hm hThrough he₁ (hBecomes.pattern?.trans hPattern)
  refine ⟨e', he', hKind, fun args pattern => ?_⟩
  -- The call normalizes what is normalized already, so the pattern meets the text that it matched.
  have hCall : normalizeQuery st.prepared.query = normalizeQuery text := by
    rw [hQuery, normalizeQuery_normalizeQuery]
  constructor
  · apply Expectation.attempt_ne_rejected_query hPattern'
    rw [Request.call, hCall]
    exact hMatch
  · apply Expectation.attempt_ne_rejected_query hPattern'
    rw [Request.call, hCall]
    exact hMatch

/-- A statement of a text with blanks, and an Exec declared through its Prepare after it was handed
out. -/
theorem statement_transparent_blanks :
    ∃ (w : World) (earlier later : List Operation) (st : Statement) (e : Expectation),
      earlier = [.direct 0 (.expect .prepare "^")] ∧
      later = [.prepareOn ⟨0, 0⟩ " a\n b ", .direct 0 (.expectStatementExec 0)] ∧
      ((afterAll operate earlier w).prepare 0 " a\n b ").answer = .ok (some st) ∧
      StandsFor st " a\n b " ∧
      ((afterAll operate (earlier ++ later) w).session 0).records[1]? = some e ∧ e.kind = .exec ∧
      ∀ args pattern,
        e.attempt (Request.exec st.prepared.query args).call ≠ .rejected (.query pattern) := by
  let w : World := { sessions := [{ dsn := "" }] }
  let earlier : List Operation := [.direct 0 (.expect .prepare "^")]
  let later : List Operation := [.prepareOn ⟨0, 0⟩ " a\n b ", .direct 0 (.expectStatementExec 0)]
  have hId : 0 < w.sessions.length := by decide
  have hPrepare : ((afterAll operate earlier w).prepare 0 " a\n b ").answer =
      .ok (some ⟨0, ⟨"a b", none, 0⟩⟩) := rfl
  obtain ⟨-, hStandsFor, hThrough⟩ := statement_transparent w hId earlier later hPrepare
  obtain ⟨e, he, hKind, hRefuses⟩ := hThrough _ (List.mem_of_getElem? (i := 2) rfl) .exec rfl
  exact ⟨w, earlier, later, _, e, rfl, rfl, hPrepare, hStandsFor, he, hKind,
    fun args pattern => (hRefuses args pattern).1⟩

end World

end ScriptedDb
