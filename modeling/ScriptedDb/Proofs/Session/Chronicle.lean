import Mathlib.Data.List.Induction
import Mathlib.Data.List.Pairwise
import ScriptedDb.Proofs.Session.Claims
import ScriptedDb.Proofs.Session.Effect

/-! A session keeps three marks on an expectation, set by different operations at different times.
`Session.Recounts` says that they tell exactly what happened. -/

namespace ScriptedDb

/-- Only a Prepare delivers a statement. -/
theorem Request.record_of_delivery {request : Request} {index : Nat} {e : Expectation}
    {p : Prepared} (h : request.delivery index e = .ok (.prepared (some p))) :
    p.record = index ∧ request.call.kind = .prepare := by
  unfold delivery at h
  cases hFault : e.error with
  | some fault => simp [hFault] at h
  | none =>
    cases request with
    | close | begin | commit | rollback => simp [hFault] at h
    | exec => cases hResult : e.outcome.result <;> simp [hFault, hResult] at h
    | query =>
      cases hRows : e.outcome.rows with
      | none => simp [hFault, hRows] at h
      | some rows =>
        cases hValid : rows.validated <;> simp [hFault, hRows, hValid, Except.map] at h
    | prepare text =>
      simp only [hFault, Except.ok.injEq, Response.prepared.injEq, Option.some.injEq] at h
      subst h
      exact ⟨rfl, rfl⟩

theorem Session.request_of_prepared {operation : Operation} {s : Session} {p : Prepared}
    (h : (s.operate operation).answer = .ok (.prepared (some p))) :
    ∃ request, operation = .request request := by
  cases operation with
  | request request => exact ⟨request, rfl⟩
  | expect kind pattern =>
    cases hExpect : s.expect kind pattern <;> simp [operate, quietly, hExpect] at h
  | closeStatement q =>
    cases hClose : q.closeError <;>
      simp [operate, closeStatement, Reply.map, hClose, Except.map] at h
  | expectStatementExec | expectStatementQuery | refine | setOrdered | setRequireExpectations =>
    simp [operate, quietly] at h

namespace Moment

def claim? (m : Moment Session Session.Operation Response) : Option Claim :=
  match m.operation with
  | .request request => m.before.claimFor? request
  | _ => none

def statement? (m : Moment Session Session.Operation Response) : Option Prepared :=
  match m.answer with
  | .ok (.prepared statement?) => statement?
  | _ => none

/-- The moment tells the Prepare at an index that its statement must be closed. -/
def Demands (m : Moment Session Session.Operation Response) (index : Nat) : Prop :=
  m.operation = .refine index .mustBeClosed ∧
    m.before.records[index]?.any (·.kind == .prepare) = true

variable {m : Moment Session Session.Operation Response} {index : Nat} {p : Prepared}

theorem statement?_eq_some_iff : m.statement? = some p ↔ m.answer = .ok (.prepared (some p)) := by
  unfold statement?
  split
  · rename_i statement? hAnswer
    simp [hAnswer]
  · rename_i hOther
    constructor
    · intro h
      cases h
    · intro h
      exact absurd h (hOther (some p))

/-- The expectation at an index is fulfilled after a moment if it was before or is claimed in it. -/
theorem By.isFulfilled_iff (h : m.By Session.operate) :
    m.after.isFulfilled index = true ↔
      m.before.isFulfilled index = true ∨ m.claim?.map Claim.index = some index := by
  have hAfter : m.after.isFulfilled index = m.before.records[index]?.any
      fun e => (m.before.rework m.operation index e).fulfilled := by
    rw [h.2]
    exact Session.any_operate (fun e hBlank => hBlank.fulfilled) _ _ _
  rw [hAfter, Session.isFulfilled]
  unfold claim? Session.rework
  cases m.operation with
  | expect | expectStatementExec | expectStatementQuery | setOrdered | setRequireExpectations =>
    simp
  | refine i r =>
    by_cases hi : i = index <;> simp [hi]
  | closeStatement q =>
    by_cases hi : q.record = index <;> simp [hi]
  | request request =>
    simp only
    by_cases hClaim : (m.before.claimFor? request).map Claim.index = some index
    · -- Only an expectation that is there can be claimed.
      rcases m.before.serve_cases request with
        ⟨j, e, he, -, -, hClaimed, -, -⟩ | ⟨-, hNone, -, -⟩
      · obtain rfl : j = index := by simpa [hClaimed] using hClaim
        simp [hClaim, he]
      · simp [hNone] at hClaim
    · simp [hClaim]

/-- The statement of a Prepare must be closed after a moment if it had to be before or the moment
demands it. -/
theorem By.mustBeClosed_iff (h : m.By Session.operate) :
    m.after.records[index]?.any Expectation.mustBeClosed = true ↔
      m.before.records[index]?.any Expectation.mustBeClosed = true ∨ m.Demands index := by
  rw [h.2, Session.any_operate fun e hBlank => hBlank.mustBeClosed]
  unfold Demands Session.rework
  cases m.operation with
  | expect | expectStatementExec | expectStatementQuery | setOrdered | setRequireExpectations =>
    simp
  | request request =>
    by_cases hClaim : (m.before.claimFor? request).map Claim.index = some index <;> simp [hClaim]
  | closeStatement q =>
    by_cases hi : q.record = index <;> simp [hi]
  | refine i r =>
    by_cases hi : i = index
    · by_cases hr : r = .mustBeClosed
      · subst hi hr
        cases he : m.before.records[i]? with
        | none => simp
        | some e =>
          have hKind := @Expectation.kind_of_mustBeClosed e
          simp only [↓reduceIte, Option.any_some, Expectation.mustBeClosed_refine_mustBeClosed,
            beq_iff_eq, true_and]
          exact ⟨.inr, fun hOr => hOr.elim hKind id⟩
      · simp [hi, hr, Expectation.mustBeClosed_refine_of_ne hr]
    · simp [hi]

/-- The statement of a Prepare is closed after a moment if it was before or the moment closes it. -/
theorem By.closed_iff (h : m.By Session.operate) :
    m.after.records[index]?.any Expectation.closed = true ↔
      m.before.records[index]?.any Expectation.closed = true ∨
        ∃ p, m.operation = .closeStatement p ∧ p.record = index ∧
          m.before.records[index]?.any (·.kind == .prepare) = true := by
  rw [h.2, Session.any_operate fun e hBlank => hBlank.closed]
  unfold Session.rework
  cases m.operation with
  | expect | expectStatementExec | expectStatementQuery | setOrdered | setRequireExpectations =>
    simp
  | request request =>
    by_cases hClaim : (m.before.claimFor? request).map Claim.index = some index <;> simp [hClaim]
  | refine i r =>
    by_cases hi : i = index <;> simp [hi]
  | closeStatement q =>
    by_cases hi : q.record = index
    · cases he : m.before.records[index]? with
      | none => simp [hi]
      | some e =>
        have hKind := @Expectation.kind_of_closed e
        simp only [hi, ↓reduceIte, Option.any_some, Expectation.closed_markClosed, beq_iff_eq,
          Session.Operation.closeStatement.injEq, exists_eq_left', true_and]
        exact ⟨.inr, fun hOr => hOr.elim hKind id⟩
    · simp [hi]

/-- A statement is handed out by a call that claims a Prepare, and by no other. -/
theorem By.claim_of_statement? (h : m.By Session.operate) (hStatement : m.statement? = some p) :
    m.claim?.map Claim.index = some p.record ∧
      m.before.records[p.record]?.any (·.kind == .prepare) = true := by
  rw [statement?_eq_some_iff] at hStatement
  obtain ⟨request, hRequest⟩ := Session.request_of_prepared (h.1 ▸ hStatement)
  rw [(h.serve hRequest).1] at hStatement
  have hClaim? : m.claim? = m.before.claimFor? request := by simp only [claim?, hRequest]
  rw [hClaim?]
  rcases m.before.serve_cases request with
    ⟨index, e, he, -, hTakes, hClaim, hDelivery, -⟩ | ⟨-, -, hRefused | ⟨-, hNothing⟩, -⟩
  · obtain ⟨hIndex, hPrepare⟩ := Request.record_of_delivery (hDelivery.symm.trans hStatement)
    simp [hClaim, hIndex, he, Expectation.kind_of_takes hTakes, hPrepare]
  · rw [hStatement] at hRefused
    cases hRefused
  · rw [hNothing] at hStatement
    cases request <;> simp [Request.nothing] at hStatement

/-- The expectations that become fulfilled in a moment are what its call claimed. -/
theorem By.claims_eq (h : m.By Session.operate) :
    m.claims = (m.claim?.map Claim.index).toList := by
  unfold claim?
  split
  · rename_i request hRequest
    have hAfter := (h.serve hRequest).2
    rcases m.before.serve_cases request with
      ⟨index, e, he, -, hTakes, hClaim, -, hState⟩ | ⟨-, hClaim, -, hState⟩
    · rw [hClaim]
      exact claims_eq_singleton he (Expectation.pending_of_takes hTakes) (hAfter.trans hState)
    · rw [hClaim]
      exact claims_eq_nil (.of_flags_eq (by rw [hAfter, hState]))
  · rename_i hOther
    exact claims_eq_nil (h.claimsNothing hOther)

theorem exists_of_claim (hClaim : m.claim?.map Claim.index = some index) :
    ∃ e, m.before.records[index]? = some e := by
  unfold claim? at hClaim
  split at hClaim
  · rename_i request hRequest
    rcases m.before.serve_cases request with
      ⟨i, e, he, -, -, hClaimed, -, -⟩ | ⟨-, hNone, -, -⟩
    · obtain rfl : i = index := by simpa [hClaimed] using hClaim
      exact ⟨e, he⟩
    · simp [hNone] at hClaim
  · cases hClaim

/-- A call that claims a Prepare hands out a statement of it, unless it fails with the declared
fault. -/
theorem By.statement?_of_claim (h : m.By Session.operate)
    (hClaim : m.claim?.map Claim.index = some index)
    (hKind : m.before.records[index]?.any (·.kind == .prepare) = true) :
    (∃ p, m.statement? = some p ∧ p.record = index) ∨
      ∃ fault, m.answer = .error (.injected fault) := by
  unfold claim? at hClaim
  split at hClaim
  · rename_i request hRequest
    rw [(h.serve hRequest).1]
    rcases m.before.serve_cases request with
      ⟨i, e, he, -, hTakes, hClaimed, hDelivery, -⟩ | ⟨-, hNone, -, -⟩
    · obtain rfl : i = index := by simpa [hClaimed] using hClaim
      have hPrepare : request.call.kind = .prepare := by
        rw [← Expectation.kind_of_takes hTakes]
        simpa [he] using hKind
      have hAnswer : m.answer = request.delivery i e := (h.serve hRequest).1.trans hDelivery
      rw [hDelivery]
      unfold Request.delivery at hAnswer ⊢
      cases hFault : e.error with
      | some fault => exact .inr ⟨fault, rfl⟩
      | none =>
        cases request with
        | close | begin | commit | rollback | exec | query => cases hPrepare
        | prepare text =>
          simp only [hFault] at hAnswer
          exact .inl ⟨_, statement?_eq_some_iff.mpr hAnswer, rfl⟩
    · simp [hNone] at hClaim
  · cases hClaim

end Moment

abbrev Chronicle := List (Moment Session Session.Operation Response)

namespace Chronicle

def Claimed (ms : Chronicle) (index : Nat) : Prop :=
  ∃ m ∈ ms, m.claim?.map Claim.index = some index

/-- The Prepare at an index was told that its statement must be closed. -/
def MustBeClosed (ms : Chronicle) (index : Nat) : Prop :=
  ∃ m ∈ ms, m.Demands index

def HandedOut (ms : Chronicle) (p : Prepared) : Prop :=
  ∃ m ∈ ms, m.statement? = some p

def Closed (ms : Chronicle) (p : Prepared) : Prop :=
  ∃ m ∈ ms, m.operation = .closeStatement p

/-- A statement that the Prepare at an index produced was closed. -/
def StatementClosed (ms : Chronicle) (index : Nat) : Prop :=
  ∃ p, HandedOut ms p ∧ p.record = index ∧ Closed ms p

/-- No statement is closed that was not handed out before. -/
def ClosesHandedOut (ms : Chronicle) : Prop :=
  ∀ earlier m later, ms = earlier ++ m :: later →
    ∀ p, m.operation = .closeStatement p → HandedOut earlier p

variable {ms : Chronicle} {m : Moment Session Session.Operation Response} {index : Nat}
  {p : Prepared}

theorem exists_mem_concat {test : Moment Session Session.Operation Response → Prop} :
    (∃ m' ∈ ms ++ [m], test m') ↔ (∃ m' ∈ ms, test m') ∨ test m := by
  simp only [List.mem_append, List.mem_singleton, or_and_right, exists_or, exists_eq_left]

theorem closesHandedOut_of_forall (h : ∀ m ∈ ms, ∀ p, m.operation ≠ .closeStatement p) :
    ClosesHandedOut ms := by
  rintro earlier m later rfl p hClose
  exact absurd hClose (h m (by simp) p)

theorem ClosesHandedOut.concat (h : ClosesHandedOut ms)
    (hLast : ∀ p, m.operation = .closeStatement p → HandedOut ms p) :
    ClosesHandedOut (ms ++ [m]) := by
  intro earlier m' later hEq p hClose
  rcases List.eq_nil_or_concat' later with rfl | ⟨rest, last, rfl⟩
  · obtain ⟨rfl, hOnly⟩ := List.append_inj' hEq rfl
    obtain rfl : m = m' := by simpa using hOnly
    exact hLast p hClose
  · rw [← List.cons_append, ← List.append_assoc] at hEq
    obtain ⟨rfl, -⟩ := List.append_inj' hEq rfl
    exact h earlier m' rest rfl p hClose

theorem ClosesHandedOut.of_concat (h : ClosesHandedOut (ms ++ [m])) : ClosesHandedOut ms := by
  intro earlier m' later hEq
  exact h earlier m' (later ++ [m]) (by rw [hEq]; simp)

theorem ClosesHandedOut.closed_of_mem (h : ClosesHandedOut ms) (hClosed : Closed ms p) :
    HandedOut ms p := by
  obtain ⟨m, hm, hClose⟩ := hClosed
  obtain ⟨earlier, later, rfl⟩ := List.append_of_mem hm
  obtain ⟨m', hm', hStatement⟩ := h earlier m later rfl p hClose
  exact ⟨m', List.mem_append_left _ hm', hStatement⟩

end Chronicle

namespace Session

variable {s : Session} {ms : Chronicle}

/-- The marks of a session tell what happened: what calls have claimed, which statements must be
closed, and which were. Statements come from Prepare expectations. -/
structure Recounts (s : Session) (ms : Chronicle) : Prop where
  claimed (index : Nat) : s.isFulfilled index = true ↔ Chronicle.Claimed ms index
  mustBeClosed (index : Nat) :
    s.records[index]?.any Expectation.mustBeClosed = true ↔ Chronicle.MustBeClosed ms index
  closed (index : Nat) :
    s.records[index]?.any Expectation.closed = true ↔
      ∃ p, Chronicle.Closed ms p ∧ p.record = index
  prepare (p : Prepared) : Chronicle.HandedOut ms p →
    s.records[p.record]?.any (·.kind == .prepare) = true

theorem Recounts.of_records_eq_nil (h : s.records = []) : s.Recounts [] where
  claimed index := by simp [isFulfilled, h, Chronicle.Claimed]
  mustBeClosed index := by simp [h, Chronicle.MustBeClosed]
  closed index := by simp [h, Chronicle.Closed]
  prepare p := by simp [Chronicle.HandedOut]

/-- An operation keeps the kind of what is at an index. -/
theorem kind_operate (operation : Operation) {s : Session} {index : Nat}
    (h : s.records[index]?.any (·.kind == .prepare) = true) :
    (s.operate operation).state.records[index]?.any (·.kind == .prepare) = true := by
  obtain ⟨e, he, hKind⟩ := (Option.any_eq_true _ _).mp h
  rw [getElem?_operate operation he, Option.any_some, kind_rework]
  exact hKind

theorem kind_afterAll (ops : List Operation) {s : Session} {index : Nat} {e : Expectation}
    (he : s.records[index]? = some e) :
    ∃ e', (afterAll operate ops s).records[index]? = some e' ∧ e'.kind = e.kind := by
  induction ops generalizing s e with
  | nil => exact ⟨e, he, rfl⟩
  | cons op ops ih =>
    obtain ⟨e', he', hKind⟩ := ih (getElem?_operate op he)
    exact ⟨e', he', by rw [hKind, kind_rework]⟩

/-- One more moment sets the marks that it has to. -/
theorem Recounts.concat {m : Moment Session Operation Response} (h : m.before.Recounts ms)
    (hStep : m.By operate)
    (hCloses : ∀ p, m.operation = .closeStatement p → Chronicle.HandedOut ms p) :
    m.after.Recounts (ms ++ [m]) where
  claimed index := by
    rw [hStep.isFulfilled_iff, h.claimed]
    exact Chronicle.exists_mem_concat.symm
  mustBeClosed index := by
    rw [hStep.mustBeClosed_iff, h.mustBeClosed]
    exact Chronicle.exists_mem_concat.symm
  closed index := by
    rw [hStep.closed_iff, h.closed]
    simp only [Chronicle.Closed, Chronicle.exists_mem_concat, or_and_right, exists_or]
    refine or_congr Iff.rfl (exists_congr fun p => ?_)
    constructor
    · rintro ⟨hClose, hIndex, -⟩
      exact ⟨hClose, hIndex⟩
    · rintro ⟨hClose, rfl⟩
      exact ⟨hClose, rfl, h.prepare p (hCloses p hClose)⟩
  prepare p := by
    rw [Chronicle.HandedOut, Chronicle.exists_mem_concat]
    rintro (hBefore | hNow)
    · rw [hStep.2]
      exact kind_operate _ (h.prepare p hBefore)
    · rw [hStep.2]
      exact kind_operate _ (hStep.claim_of_statement? hNow).2

/-- A run that closes no statement only closes statements that were handed out. -/
theorem closesHandedOut_history (ops : List Operation) (s : Session)
    (h : ∀ op ∈ ops, ∀ p, op ≠ .closeStatement p) :
    Chronicle.ClosesHandedOut (history operate ops s) := by
  refine Chronicle.closesHandedOut_of_forall fun m hm p => h m.operation ?_ p
  rw [← map_operation_history operate ops s]
  exact List.mem_map_of_mem hm

/-- After every run the marks of a new session tell what happened. -/
theorem recounts_afterAll (hNew : s.records = []) (ops : List Operation)
    (hCloses : Chronicle.ClosesHandedOut (history operate ops s)) :
    (afterAll operate ops s).Recounts (history operate ops s) := by
  induction ops using List.reverseRecOn with
  | nil => exact .of_records_eq_nil hNew
  | append_singleton ops op ih =>
    rw [history_concat] at hCloses ⊢
    rw [afterAll_append]
    refine Recounts.concat (m := ⟨_, op, _, _⟩) (ih hCloses.of_concat) ⟨rfl, rfl⟩ fun p hClose => ?_
    exact hCloses _ _ [] rfl p hClose

theorem nodup_statements (ops : List Operation) (s : Session) :
    (((history operate ops s).filterMap Moment.statement?).map Prepared.record).Nodup := by
  have hSublist (ms : Chronicle) (hSteps : ∀ m ∈ ms, m.By operate) :
      ((ms.filterMap Moment.statement?).map Prepared.record).Sublist (ms.flatMap Moment.claims) := by
    induction ms with
    | nil => exact .slnil
    | cons m ms ih =>
      have hRest := ih fun m' hm' => hSteps m' (List.mem_cons_of_mem _ hm')
      have hStep := hSteps m List.mem_cons_self
      rw [List.filterMap_cons, List.flatMap_cons]
      cases hStatement : m.statement? with
      | none => exact hRest.trans (List.sublist_append_right ..)
      | some p =>
        rw [hStep.claims_eq, (hStep.claim_of_statement? hStatement).1]
        exact hRest.cons_cons p.record
  exact (hSublist _ fun m hm => by_of_mem_history hm).nodup (nodup_claims ops s).1

/-- Over a run, no expectation is claimed in two moments. -/
theorem eq_of_claim {ops : List Operation} {s : Session} {index : Nat}
    {m m' : Moment Session Operation Response} (hm : m ∈ history operate ops s)
    (hm' : m' ∈ history operate ops s) (hClaim : m.claim?.map Claim.index = some index)
    (hClaim' : m'.claim?.map Claim.index = some index) : m = m' := by
  by_contra hNe
  have hDisjoint := (List.nodup_flatMap.mp (nodup_claims ops s).1).2
  have : Std.Symm (Function.onFun List.Disjoint
      (Moment.claims : Moment Session Operation Response → List Nat)) := ⟨fun _ _ h _ hb ha => h ha hb⟩
  have hApart := hDisjoint.forall hm hm' hNe
  have hMem {m : Moment Session Operation Response} (hm : m ∈ history operate ops s)
      (hClaim : m.claim?.map Claim.index = some index) : index ∈ m.claims := by
    rw [(by_of_mem_history hm).claims_eq, hClaim]
    exact List.mem_singleton.mpr rfl
  exact hApart (hMem hm hClaim) (hMem hm' hClaim')

end Session

end ScriptedDb
