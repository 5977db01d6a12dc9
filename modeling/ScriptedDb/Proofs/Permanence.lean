import ScriptedDb.Proofs.Projection
import ScriptedDb.Proofs.Session.Effect

/-! `Expectation.Becomes` says what may become of one expectation and `Session.Grows` what may
become of a script. Every operation makes a script grow, so every run does. -/

namespace ScriptedDb

namespace Expectation

@[simp] theorem pattern?_markClosed (e : Expectation) :
    e.markClosed.payload.pattern? = e.payload.pattern? := by
  unfold markClosed
  cases h : e.payload <;> simp [h, Payload.pattern?]

@[simp] theorem pattern?_refine (e : Expectation) (r : Refinement) :
    (e.refine r).payload.pattern? = e.payload.pattern? := by
  unfold refine
  cases r <;> cases h : e.payload <;> simp [h, Payload.pattern?]

/-- What may become of an expectation: its payload stays of the kind that was declared and keeps its
pattern, and no mark is taken back. -/
structure Becomes (e e' : Expectation) : Prop where
  kind : e'.payload.kind = e.payload.kind
  pattern? : e'.payload.pattern? = e.payload.pattern?
  fulfilled : e.fulfilled = true → e'.fulfilled = true
  closed : e.closed = true → e'.closed = true

namespace Becomes

variable {e e' e'' : Expectation}

theorem refl (e : Expectation) : e.Becomes e where
  kind := rfl
  pattern? := rfl
  fulfilled := id
  closed := id

theorem trans (h : e.Becomes e') (h' : e'.Becomes e'') : e.Becomes e'' where
  kind := h'.kind.trans h.kind
  pattern? := h'.pattern?.trans h.pattern?
  fulfilled := h'.fulfilled ∘ h.fulfilled
  closed := h'.closed ∘ h.closed

theorem fulfil (e : Expectation) : e.Becomes e.fulfil where
  kind := rfl
  pattern? := rfl
  fulfilled _ := rfl
  closed := id

theorem markClosed (e : Expectation) : e.Becomes e.markClosed where
  kind := e.kind_markClosed
  pattern? := e.pattern?_markClosed
  fulfilled h := by rwa [fulfilled_markClosed]
  closed h := by rw [closed_markClosed, kind_of_closed h, beq_self_eq_true]

theorem refine (e : Expectation) (r : Refinement) : e.Becomes (e.refine r) where
  kind := e.kind_refine r
  pattern? := e.pattern?_refine r
  fulfilled h := by rwa [fulfilled_refine]
  closed h := by rwa [closed_refine]

end Becomes

end Expectation

namespace Session

variable {s s' s'' : Session}

/-- What may become of a script: at every index stays the expectation that is there, or what became
of it. -/
def Grows (s s' : Session) : Prop :=
  ∀ (index : Nat) (e : Expectation), s.records[index]? = some e →
    ∃ e', s'.records[index]? = some e' ∧ e.Becomes e'

theorem Grows.refl (s : Session) : s.Grows s :=
  fun _ e he => ⟨e, he, .refl e⟩

theorem Grows.trans (h : s.Grows s') (h' : s'.Grows s'') : s.Grows s'' := by
  intro index e he
  obtain ⟨e', he', hBecomes⟩ := h index e he
  obtain ⟨e'', he'', hBecomes'⟩ := h' index e' he'
  exact ⟨e'', he'', hBecomes.trans hBecomes'⟩

theorem becomes_rework (s : Session) (operation : Operation) (index : Nat) (e : Expectation) :
    e.Becomes (s.rework operation index e) := by
  unfold rework
  split
  · split
    · exact .refine e _
    · exact .refl e
  · split
    · exact .markClosed e
    · exact .refl e
  · split
    · exact .fulfil e
    · exact .refl e
  · exact .refl e

theorem grows_operate (operation : Operation) (s : Session) :
    s.Grows (s.operate operation).state :=
  fun index e he => ⟨_, getElem?_operate operation he, s.becomes_rework operation index e⟩

theorem grows_dispatch (config : Config) (call : Call) (s : Session) :
    s.Grows { s with records := (dispatch config call s.records).state } := by
  rcases dispatch_cases config call s.records with
    ⟨index, e, he, -, -, -, hState⟩ | ⟨-, -, hState⟩
  · rw [hState]
    intro j e' he'
    by_cases hj : index = j
    · subst hj
      obtain rfl : e' = e := Option.some.inj (he'.symm.trans he)
      obtain ⟨hLt, -⟩ := List.getElem?_eq_some_iff.mp he
      exact ⟨_, List.getElem?_set_self hLt, .fulfil e'⟩
    · exact ⟨e', (List.getElem?_set_ne hj).trans he', .refl e'⟩
  · rw [hState]
    exact .refl s

theorem grows_afterAll (ops : List Operation) (s : Session) : s.Grows (afterAll operate ops s) := by
  induction ops generalizing s with
  | nil => exact .refl s
  | cons op ops ih => exact (s.grows_operate op).trans (ih _)

/-- What an operation declares comes after all that is there. -/
theorem getElem?_of_declares? {operation : Operation} {kind : Kind} {p? : Option QueryPattern}
    (h : s.declares? operation = some (kind, p?)) :
    ∃ e : Expectation, (s.operate operation).state.records[s.records.length]? = some e ∧
      e.Blank ∧ e.payload.kind = kind ∧ e.payload.pattern? = p? := by
  rcases s.records_operate_cases operation with
    ⟨hNone, -⟩ | ⟨e, hBlank, -, hSome, hRecords⟩
  · rw [hNone] at h
    cases h
  · rw [hSome, Option.some.injEq, Prod.mk.injEq] at h
    exact ⟨e, by simp [hRecords], hBlank, h.1, h.2⟩

/-- A script becomes longer by what is declared, and never shorter. -/
theorem length_operate (operation : Operation) (s : Session) :
    (s.operate operation).state.records.length =
      s.records.length + (s.declares? operation).toList.length := by
  rcases s.records_operate_cases operation with ⟨hNone, hRecords⟩ | ⟨e, -, -, hSome, hRecords⟩
  · simp [hNone, hRecords]
  · simp [hSome, hRecords]

/-- A refinement changes the expectation that it names and nothing else, and leaves its marks
alone. -/
structure RefinedAt (s s' : Session) (index : Nat) : Prop where
  rest : s' = { s with records := s'.records }
  length : s'.records.length = s.records.length
  other (j : Nat) : j ≠ index → s'.records[j]? = s.records[j]?
  marks (e e' : Expectation) : s.records[index]? = some e → s'.records[index]? = some e' →
    e'.fulfilled = e.fulfilled ∧ e'.closed = e.closed

theorem refinedAt_refine (s : Session) (index : Nat) (r : Refinement) :
    s.RefinedAt (s.refine index r) index where
  rest := rfl
  length := List.length_modify ..
  other j hj := by
    rw [refine, List.getElem?_modify_ne _ _ (Ne.symm hj)]
  marks e e' he he' := by
    rw [refine, List.getElem?_modify_eq, he] at he'
    obtain rfl : e.refine r = e' := Option.some.inj he'
    exact ⟨e.fulfilled_refine r, e.closed_refine r⟩

/-- A declaration with a pattern that cannot be read fails and changes nothing. -/
theorem operate_expect_of_invalid {kind : Kind} (hQuery : kind.hasQuery = true) {pattern : String}
    {error : Error} (h : QueryPattern.ofText pattern = .error error) (s : Session) :
    s.operate (.expect kind pattern) = { answer := .error error, state := s } := by
  cases kind with
  | close | begin | commit | rollback => cases hQuery
  | prepare | exec | query => simp only [operate, expect, h, Except.map]

end Session

namespace World

/-- The history of a script. Over any run, whatever clients do with a session and its handles, every
expectation stays at its index with the kind and the pattern with which it was declared, and no mark
of it is taken back; nor does a dispatch in any mode take one back. An operation adds at most one
expectation, after all others. A refinement changes the expectation that it names and nothing else,
and not its marks. A declaration with a pattern that cannot be read adds nothing and changes
nothing. -/
theorem record_history (w : World) {id : SessionId} (hId : id < w.sessions.length)
    (ops : List Operation) :
    (w.session id).Grows ((afterAll operate ops w).session id) ∧
      (∀ (config : Config) (call : Call) (s : Session),
        s.Grows { s with records := (dispatch config call s.records).state }) ∧
      ∀ m ∈ w.momentsOf id ops,
        m.before.Grows m.after ∧ m.after.Grows ((afterAll operate ops w).session id) ∧
        m.after.records.length =
          m.before.records.length + (m.before.declares? m.operation).toList.length ∧
        (∀ kind p?, m.before.declares? m.operation = some (kind, p?) → ∃ e e',
          m.after.records[m.before.records.length]? = some e ∧ e.Blank ∧
          ((afterAll operate ops w).session id).records[m.before.records.length]? = some e' ∧
          e'.payload.kind = kind ∧ e'.payload.pattern? = p?) ∧
        (∀ index r, m.operation = .refine index r → m.before.RefinedAt m.after index) ∧
        ∀ kind pattern error, m.operation = .expect kind pattern → kind.hasQuery = true →
          QueryPattern.ofText pattern = .error error →
          m.answer = .error error ∧ m.after = m.before := by
  rw [session_afterAll hId, momentsOf_eq hId]
  refine ⟨Session.grows_afterAll _ _, Session.grows_dispatch, fun m hm => ?_⟩
  obtain ⟨later, hLater⟩ := exists_afterAll_of_mem_history hm
  obtain ⟨hAnswer, hAfter⟩ := by_of_mem_history hm
  have hGrows : m.after.Grows (afterAll Session.operate later m.after) :=
    Session.grows_afterAll later m.after
  rw [hLater]
  refine ⟨hAfter ▸ m.before.grows_operate m.operation, hGrows,
    hAfter ▸ m.before.length_operate m.operation, ?_, ?_, ?_⟩
  · intro kind p? hDeclares
    obtain ⟨e, he, hBlank, hKind, hPattern⟩ := Session.getElem?_of_declares? hDeclares
    rw [← hAfter] at he
    obtain ⟨e', he', hBecomes⟩ := hGrows _ e he
    exact ⟨e, e', he, hBlank, he', hBecomes.kind.trans hKind, hBecomes.pattern?.trans hPattern⟩
  · intro index r hRefine
    rw [hAfter, hRefine]
    exact m.before.refinedAt_refine index r
  · intro kind pattern error hExpect hQuery hInvalid
    rw [hAnswer, hAfter, hExpect, Session.operate_expect_of_invalid hQuery hInvalid]
    exact ⟨rfl, rfl⟩

/-- What a Prepare declares for its statement has its pattern, also after it was refined and claimed.
A declaration in between fails and leaves the script alone. -/
theorem record_history_statement_exec :
    ∃ (w : World) (fault : Fault) (ops : List Operation) (p : QueryPattern) (e : Expectation),
      ops = [.direct 0 (.expect .prepare "^$"), .direct 0 (.expectStatementExec 0),
        .direct 0 (.expect .query "("), .direct 0 (.refine 1 (.error fault)),
        .execOn ⟨0, 0⟩ "" []] ∧
      p.text = "^$" ∧ ((afterAll operate ops w).session 0).records[1]? = some e ∧
      e.payload.kind = .exec ∧ e.payload.pattern? = some p ∧
      ((afterAll operate ops w).session 0).records.length = 2 := by
  let w : World := { sessions := [{ dsn := "" }] }
  let fault : Fault := ⟨0, .message ""⟩
  let ops : List Operation := [.direct 0 (.expect .prepare "^$"),
    .direct 0 (.expectStatementExec 0), .direct 0 (.expect .query "("),
    .direct 0 (.refine 1 (.error fault)), .execOn ⟨0, 0⟩ "" []]
  have hId : 0 < w.sessions.length := by decide
  obtain ⟨-, -, hMoments⟩ := record_history w hId ops
  obtain ⟨-, -, -, hDeclares, -, -⟩ := hMoments _ (List.mem_of_getElem? (i := 1) rfl)
  obtain ⟨-, e, -, -, he, hKind, hPattern⟩ := hDeclares .exec _ rfl
  exact ⟨w, fault, ops, _, e, rfl, rfl, he, hKind, hPattern, rfl⟩

end World

end ScriptedDb
