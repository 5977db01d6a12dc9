import ScriptedDb.Proofs.Projection
import ScriptedDb.Proofs.Session.Chronicle

/-! Verification reads the marks on the expectations; `Session.recounts_afterAll` says what they
mean. It does not ask whether there was a statement to close. -/

namespace ScriptedDb

namespace Chronicle

/-- What verification asks of the expectation at an index. -/
def Met (ms : Chronicle) (index : Nat) : Prop :=
  Claimed ms index ∧ (MustBeClosed ms index → StatementClosed ms index)

/-- The call that claimed the expectation at an index was answered with its declared fault. -/
def Failed (ms : Chronicle) (index : Nat) : Prop :=
  ∃ m ∈ ms, m.claim?.map Claim.index = some index ∧ ∃ fault, m.answer = .error (.injected fault)

end Chronicle

namespace Session

variable {s : Session} {ms : Chronicle} {index : Nat} {e : Expectation}

theorem verify_eq_ok_iff : s.verify = .ok () ↔
    ∀ (index : Nat) (e : Expectation), s.records[index]? = some e → unmet? e = none := by
  unfold verify
  cases hFind : s.records.findSome? unmet? with
  | none =>
    rw [List.findSome?_eq_none_iff] at hFind
    simp only [true_iff]
    intro index e he
    exact hFind e (List.mem_of_getElem? he)
  | some error =>
    obtain ⟨e, he, hUnmet⟩ := List.exists_of_findSome?_eq_some hFind
    obtain ⟨index, hIndex⟩ := List.getElem?_of_mem he
    simp only [reduceCtorEq, false_iff]
    intro hMet
    rw [hMet index e hIndex] at hUnmet
    cases hUnmet

/-- Verification reports the first expectation with which something is wrong. -/
theorem verify_eq_error_iff {error : Error} : s.verify = .error error ↔
    ∃ (index : Nat) (e : Expectation), s.records[index]? = some e ∧ unmet? e = some error ∧
      ∀ j < index, ∀ e', s.records[j]? = some e' → unmet? e' = none := by
  have hVerify : s.verify = .error error ↔ s.records.findSome? unmet? = some error := by
    unfold verify
    cases s.records.findSome? unmet? <;> simp
  rw [hVerify, List.findSome?_eq_some_iff]
  constructor
  · rintro ⟨earlier, e, later, hRecords, hUnmet, hEarlier⟩
    refine ⟨earlier.length, e, by simp [hRecords], hUnmet, fun j hj e' he' => hEarlier e' ?_⟩
    rw [hRecords, List.getElem?_append_left hj] at he'
    exact List.mem_of_getElem? he'
  · rintro ⟨index, e, he, hUnmet, hEarlier⟩
    obtain ⟨hLt, rfl⟩ := List.getElem?_eq_some_iff.mp he
    refine ⟨s.records.take index, _, s.records.drop (index + 1), by simp, hUnmet, ?_⟩
    intro e' he'
    obtain ⟨j, hj, rfl⟩ := List.mem_take_iff_getElem.mp he'
    exact hEarlier j (by omega) _ (List.getElem?_eq_getElem _)

namespace Recounts

/-- Where statements are closed only after they were handed out, a mark of a close tells of a
statement that the expectation produced. -/
theorem closed_iff (h : s.Recounts ms) (hCloses : Chronicle.ClosesHandedOut ms) (index : Nat) :
    s.records[index]?.any Expectation.closed = true ↔ Chronicle.StatementClosed ms index := by
  rw [h.closed]
  constructor
  · rintro ⟨p, hClosed, hIndex⟩
    exact ⟨p, hCloses.closed_of_mem hClosed, hIndex, hClosed⟩
  · rintro ⟨p, -, hIndex, hClosed⟩
    exact ⟨p, hClosed, hIndex⟩

theorem unmet?_cases (h : s.Recounts ms) (hCloses : Chronicle.ClosesHandedOut ms)
    (he : s.records[index]? = some e) :
    (Chronicle.Met ms index ∧ unmet? e = none) ∨
    (¬ Chronicle.Claimed ms index ∧ unmet? e = some (.unfulfilledExpectation e.describe)) ∨
    (Chronicle.Claimed ms index ∧ Chronicle.MustBeClosed ms index ∧
      ¬ Chronicle.StatementClosed ms index ∧
      unmet? e = some (.statementNotClosed e.describe)) := by
  have hClaimed := h.claimed index
  have hMust := h.mustBeClosed index
  have hClosed := h.closed_iff hCloses index
  simp only [isFulfilled, he, Option.any_some] at hClaimed hMust hClosed
  rw [Chronicle.Met, ← hClaimed, ← hMust, ← hClosed]
  simp only [unmet?, Expectation.awaitsClose_eq]
  cases e.fulfilled <;> cases e.mustBeClosed <;> cases e.closed <;> simp

theorem met_iff (h : s.Recounts ms) (hCloses : Chronicle.ClosesHandedOut ms)
    (he : s.records[index]? = some e) : unmet? e = none ↔ Chronicle.Met ms index := by
  rcases h.unmet?_cases hCloses he with ⟨hMet, hNone⟩ | ⟨hNot, hSome⟩ | ⟨-, hMust, hNot, hSome⟩
  · simp [hMet, hNone]
  · simp [hSome, Chronicle.Met, hNot]
  · simp [hSome, Chronicle.Met, hMust, hNot]

/-- Verification succeeds exactly where all expectations are met. -/
theorem verify_eq_ok_iff (h : s.Recounts ms) (hCloses : Chronicle.ClosesHandedOut ms) :
    s.verify = .ok () ↔ ∀ index < s.records.length, Chronicle.Met ms index := by
  rw [Session.verify_eq_ok_iff]
  constructor
  · intro hMet index hIndex
    have he := List.getElem?_eq_getElem hIndex
    exact (h.met_iff hCloses he).mp (hMet index _ he)
  · intro hMet index e he
    obtain ⟨hIndex, -⟩ := List.getElem?_eq_some_iff.mp he
    exact (h.met_iff hCloses he).mpr (hMet index hIndex)

/-- Verification fails with the first expectation that is not met, and tells whether it was never
claimed. -/
theorem verify_eq_error_iff (h : s.Recounts ms) (hCloses : Chronicle.ClosesHandedOut ms)
    {error : Error} : s.verify = .error error ↔
      ∃ index e, s.records[index]? = some e ∧ (∀ j < index, Chronicle.Met ms j) ∧
        ((¬ Chronicle.Claimed ms index ∧ error = .unfulfilledExpectation e.describe) ∨
          (Chronicle.Claimed ms index ∧ Chronicle.MustBeClosed ms index ∧
            ¬ Chronicle.StatementClosed ms index ∧ error = .statementNotClosed e.describe)) := by
  rw [Session.verify_eq_error_iff]
  refine exists_congr fun index => exists_congr fun e => and_congr_right fun he => ?_
  have hEarlier : (∀ j < index, ∀ e', s.records[j]? = some e' → unmet? e' = none) ↔
      ∀ j < index, Chronicle.Met ms j := by
    obtain ⟨hIndex, -⟩ := List.getElem?_eq_some_iff.mp he
    refine forall_congr' fun j => forall_congr' fun hj => ?_
    have hAt := List.getElem?_eq_getElem (Nat.lt_trans hj hIndex)
    rw [← h.met_iff hCloses hAt, hAt]
    simp
  rw [hEarlier, and_comm]
  refine and_congr_right fun _ => ?_
  rcases h.unmet?_cases hCloses he with
    ⟨⟨hClaimed, hClosed⟩, hNone⟩ | ⟨hNot, hSome⟩ | ⟨hClaimed, hMust, hNot, hSome⟩
  · simp only [hNone, reduceCtorEq, hClaimed, not_true_eq_false, false_and, true_and, false_or,
      false_iff, not_and]
    intro hMust hNot
    exact absurd (hClosed hMust) hNot
  · simp [hSome, hNot, eq_comm]
  · simp [hSome, hClaimed, hMust, hNot, eq_comm]

end Recounts

end Session

namespace Session

section Finished

variable {s : Session} {ops : List Operation} {index : Nat}

/-- Over a run that closes all statements that it hands out, a claimed Prepare that must be closed
has had its statement closed exactly if it has not failed with its declared fault. -/
theorem statementClosed_iff_not_failed
    (h : (afterAll operate ops s).Recounts (history operate ops s))
    (hClosed : ∀ p, Chronicle.HandedOut (history operate ops s) p →
      Chronicle.Closed (history operate ops s) p)
    (hMust : Chronicle.MustBeClosed (history operate ops s) index)
    (hClaimed : Chronicle.Claimed (history operate ops s) index) :
    Chronicle.StatementClosed (history operate ops s) index ↔
      ¬ Chronicle.Failed (history operate ops s) index := by
  constructor
  · rintro ⟨p, ⟨m, hm, hStatement⟩, rfl, -⟩ ⟨m', hm', hClaim', fault, hFault⟩
    have hClaim := ((by_of_mem_history hm).claim_of_statement? hStatement).1
    obtain rfl := eq_of_claim hm hm' hClaim hClaim'
    rw [Moment.statement?_eq_some_iff, hFault] at hStatement
    cases hStatement
  · intro hNot
    obtain ⟨m, hm, hClaim⟩ := hClaimed
    obtain ⟨e, he, hMark⟩ := (Option.any_eq_true _ _).mp ((h.mustBeClosed index).mpr hMust)
    -- What must be closed in the end was a Prepare already when it was claimed.
    have hKind : m.before.records[index]?.any (·.kind == .prepare) = true := by
      obtain ⟨earlier, later, hOps, hBefore⟩ := exists_append_of_mem_history hm
      obtain ⟨e', he'⟩ := Moment.exists_of_claim hClaim
      rw [hBefore] at he' ⊢
      obtain ⟨e'', he'', hSame⟩ := kind_afterAll later he'
      rw [← afterAll_append, ← hOps, he, Option.some.injEq] at he''
      rw [he', Option.any_some, ← hSame, ← he'', Expectation.kind_of_mustBeClosed hMark]
      rfl
    rcases (by_of_mem_history hm).statement?_of_claim hClaim hKind with
      ⟨p, hStatement, hIndex⟩ | ⟨fault, hFault⟩
    · exact ⟨p, ⟨m, hm, hStatement⟩, hIndex, hClosed p ⟨m, hm, hStatement⟩⟩
    · exact absurd ⟨m, hm, hClaim, fault, hFault⟩ hNot

/-- What verification says of a new session after a run in which all expectations were claimed and
all statements closed. -/
theorem verify_of_finished (hNew : s.records = [])
    (hCloses : Chronicle.ClosesHandedOut (history operate ops s))
    (hClaimed : ∀ index < (afterAll operate ops s).records.length,
      Chronicle.Claimed (history operate ops s) index)
    (hClosed : ∀ p, Chronicle.HandedOut (history operate ops s) p →
      Chronicle.Closed (history operate ops s) p) :
    ((afterAll operate ops s).verify = .ok () ↔
        ∀ index, Chronicle.MustBeClosed (history operate ops s) index →
          ¬ Chronicle.Failed (history operate ops s) index) ∧
      ∀ error, (afterAll operate ops s).verify = .error error →
        ∃ index e, (afterAll operate ops s).records[index]? = some e ∧
          Chronicle.MustBeClosed (history operate ops s) index ∧
          Chronicle.Failed (history operate ops s) index ∧
          error = .statementNotClosed e.describe := by
  have hRecounts := recounts_afterAll hNew _ hCloses
  have hIndex (index : Nat) (hMust : Chronicle.MustBeClosed (history operate ops s) index) :
      index < (afterAll operate ops s).records.length := by
    obtain ⟨e, he, -⟩ := (Option.any_eq_true _ _).mp ((hRecounts.mustBeClosed index).mpr hMust)
    exact (List.getElem?_eq_some_iff.mp he).1
  have hStatement (index : Nat) (hMust : Chronicle.MustBeClosed (history operate ops s) index) :=
    statementClosed_iff_not_failed hRecounts hClosed hMust (hClaimed index (hIndex index hMust))
  refine ⟨?_, fun error hError => ?_⟩
  · rw [hRecounts.verify_eq_ok_iff hCloses]
    constructor
    · intro hMet index hMust
      exact (hStatement index hMust).mp ((hMet index (hIndex index hMust)).2 hMust)
    · intro hNone index hLt
      exact ⟨hClaimed index hLt, fun hMust => (hStatement index hMust).mpr (hNone index hMust)⟩
  · obtain ⟨index, e, he, -, ⟨hNot, -⟩ | ⟨-, hMust, hOpen, rfl⟩⟩ :=
      (hRecounts.verify_eq_error_iff hCloses).mp hError
    · obtain ⟨hLt, -⟩ := List.getElem?_eq_some_iff.mp he
      exact absurd (hClaimed index hLt) hNot
    · rw [hStatement index hMust, not_not] at hOpen
      exact ⟨index, e, he, hMust, hOpen, rfl⟩

end Finished

end Session

namespace World

/-- Verification is exact over whole runs. Whatever clients do with a new session and its handles,
verification succeeds exactly if every declared expectation was claimed by a call and every Prepare
that was told to be closed produced a statement that was closed; otherwise it reports the first
expectation of which this fails, and tells whether it was never claimed. No Prepare produces two
statements, and a Prepare is marked as closed exactly if its statement was closed. -/
theorem verification_exact (w : World) {id : SessionId} (hId : id < w.sessions.length)
    (hNew : (w.session id).records = []) (ops : List Operation)
    (hCloses : Chronicle.ClosesHandedOut (w.momentsOf id ops)) :
    (((afterAll operate ops w).session id).verify = .ok () ↔
        ∀ index < ((afterAll operate ops w).session id).records.length,
          Chronicle.Met (w.momentsOf id ops) index) ∧
      (∀ error, ((afterAll operate ops w).session id).verify = .error error ↔
        ∃ index e, ((afterAll operate ops w).session id).records[index]? = some e ∧
          (∀ j < index, Chronicle.Met (w.momentsOf id ops) j) ∧
          ((¬ Chronicle.Claimed (w.momentsOf id ops) index ∧
              error = .unfulfilledExpectation e.describe) ∨
            (Chronicle.Claimed (w.momentsOf id ops) index ∧
              Chronicle.MustBeClosed (w.momentsOf id ops) index ∧
              ¬ Chronicle.StatementClosed (w.momentsOf id ops) index ∧
              error = .statementNotClosed e.describe))) ∧
      (((w.momentsOf id ops).filterMap Moment.statement?).map Prepared.record).Nodup ∧
      (∀ p, Chronicle.HandedOut (w.momentsOf id ops) p → ∃ e,
        ((afterAll operate ops w).session id).records[p.record]? = some e ∧ e.kind = .prepare) ∧
      ∀ index e, ((afterAll operate ops w).session id).records[index]? = some e →
        (e.closed = true ↔ Chronicle.StatementClosed (w.momentsOf id ops) index) := by
  rw [session_afterAll hId, momentsOf_eq hId] at *
  have hRecounts := Session.recounts_afterAll hNew _ hCloses
  refine ⟨hRecounts.verify_eq_ok_iff hCloses, fun error => hRecounts.verify_eq_error_iff hCloses,
    Session.nodup_statements _ _, ?_, ?_⟩
  · intro p hOut
    obtain ⟨e, he, hKind⟩ := (Option.any_eq_true _ _).mp (hRecounts.prepare p hOut)
    exact ⟨e, he, by simpa using hKind⟩
  · intro index e he
    have hClosed := hRecounts.closed_iff hCloses index
    rwa [he, Option.any_some] at hClosed

/-- A statement whose close raises the declared fault is closed nevertheless. That it must be closed
is said only after it was handed out. -/
theorem verification_exact_close_fault :
    ∃ (w : World) (fault : Fault) (ops : List Operation),
      ops = [.direct 0 (.expect .prepare ""), .direct 0 (.refine 0 (.closeError fault)),
        .prepareOn ⟨0, 0⟩ "", .direct 0 (.refine 0 .mustBeClosed),
        .closeStatement ⟨0, ⟨"", some fault, 0⟩⟩] ∧
      Chronicle.ClosesHandedOut (w.momentsOf 0 ops) ∧
      (w.momentsOf 0 ops).getLast?.map Moment.answer = some (.error (.injected fault)) ∧
      ((afterAll operate ops w).session 0).verify = .ok () ∧
      ∀ index < ((afterAll operate ops w).session 0).records.length,
        Chronicle.Met (w.momentsOf 0 ops) index := by
  let w : World := { sessions := [{ dsn := "" }] }
  let fault : Fault := ⟨0, .message ""⟩
  let ops : List Operation := [.direct 0 (.expect .prepare ""),
    .direct 0 (.refine 0 (.closeError fault)), .prepareOn ⟨0, 0⟩ "",
    .direct 0 (.refine 0 .mustBeClosed), .closeStatement ⟨0, ⟨"", some fault, 0⟩⟩]
  have hCloses : Chronicle.ClosesHandedOut (w.momentsOf 0 ops) := by
    rw [momentsOf_eq (by decide)]
    refine Chronicle.ClosesHandedOut.concat (Session.closesHandedOut_history
      [.expect .prepare "", .refine 0 (.closeError fault), .request (.prepare ""),
        .refine 0 .mustBeClosed] _ (by simp)) ?_
    rintro p ⟨⟩
    exact ⟨_, List.mem_of_getElem? (i := 2) rfl, rfl⟩
  have hVerify : ((afterAll operate ops w).session 0).verify = .ok () := rfl
  exact ⟨w, fault, ops, rfl, hCloses, rfl, hVerify,
    (verification_exact w (by decide) rfl ops hCloses).1.mp hVerify⟩

/-- Suppose that all declared expectations were claimed and all statements that were handed out were
closed. Then verification succeeds exactly if no Prepare that must be closed has failed with its
declared fault; otherwise it complains that the statement of such a Prepare was not closed, although
there never was one. -/
theorem finished_script_verifies_iff (w : World) {id : SessionId} (hId : id < w.sessions.length)
    (hNew : (w.session id).records = []) (ops : List Operation)
    (hCloses : Chronicle.ClosesHandedOut (w.momentsOf id ops))
    (hClaimed : ∀ index < ((afterAll operate ops w).session id).records.length,
      Chronicle.Claimed (w.momentsOf id ops) index)
    (hClosed : ∀ p, Chronicle.HandedOut (w.momentsOf id ops) p →
      Chronicle.Closed (w.momentsOf id ops) p) :
    (((afterAll operate ops w).session id).verify = .ok () ↔
        ∀ index, Chronicle.MustBeClosed (w.momentsOf id ops) index →
          ¬ Chronicle.Failed (w.momentsOf id ops) index) ∧
      ∀ error, ((afterAll operate ops w).session id).verify = .error error →
        ∃ index e, ((afterAll operate ops w).session id).records[index]? = some e ∧
          Chronicle.MustBeClosed (w.momentsOf id ops) index ∧
          Chronicle.Failed (w.momentsOf id ops) index ∧
          error = .statementNotClosed e.describe := by
  rw [session_afterAll hId, momentsOf_eq hId] at *
  exact Session.verify_of_finished hNew hCloses hClaimed hClosed

/-- A statement that must be closed is handed out and closed, and verification succeeds. -/
theorem finished_script_verifies_prepare_close :
    ∃ (w : World) (ops : List Operation),
      ops = [.direct 0 (.expect .prepare ""), .direct 0 (.refine 0 .mustBeClosed),
        .prepareOn ⟨0, 0⟩ "", .closeStatement ⟨0, ⟨"", none, 0⟩⟩] ∧
      Chronicle.MustBeClosed (w.momentsOf 0 ops) 0 ∧
      ((afterAll operate ops w).session 0).verify = .ok () ∧
      ∀ index, Chronicle.MustBeClosed (w.momentsOf 0 ops) index →
        ¬ Chronicle.Failed (w.momentsOf 0 ops) index := by
  let w : World := { sessions := [{ dsn := "" }] }
  let ops : List Operation := [.direct 0 (.expect .prepare ""), .direct 0 (.refine 0 .mustBeClosed),
    .prepareOn ⟨0, 0⟩ "", .closeStatement ⟨0, ⟨"", none, 0⟩⟩]
  have hCloses : Chronicle.ClosesHandedOut (w.momentsOf 0 ops) := by
    rw [momentsOf_eq (by decide)]
    refine Chronicle.ClosesHandedOut.concat (Session.closesHandedOut_history
      [.expect .prepare "", .refine 0 .mustBeClosed, .request (.prepare "")] _ (by simp)) ?_
    rintro p ⟨⟩
    exact ⟨_, List.mem_of_getElem? (i := 2) rfl, rfl⟩
  have hClaimed : ∀ index < ((afterAll operate ops w).session 0).records.length,
      Chronicle.Claimed (w.momentsOf 0 ops) index := by
    intro index hIndex
    obtain rfl : index = 0 := Nat.lt_one_iff.mp hIndex
    exact ⟨_, List.mem_of_getElem? (i := 2) rfl, rfl⟩
  have hClosed : ∀ p, Chronicle.HandedOut (w.momentsOf 0 ops) p →
      Chronicle.Closed (w.momentsOf 0 ops) p := by
    rintro p ⟨m, hm, hStatement⟩
    have hMem : p ∈ (w.momentsOf 0 ops).filterMap Moment.statement? :=
      List.mem_filterMap.mpr ⟨m, hm, hStatement⟩
    obtain rfl : p = ⟨"", none, 0⟩ := List.mem_singleton.mp hMem
    exact ⟨_, List.mem_of_getElem? (i := 3) rfl, rfl⟩
  have hVerify : ((afterAll operate ops w).session 0).verify = .ok () := rfl
  exact ⟨w, ops, rfl, ⟨_, List.mem_of_getElem? (i := 1) rfl, rfl, rfl⟩, hVerify,
    (finished_script_verifies_iff w (by decide) rfl ops hCloses hClaimed hClosed).1.mp hVerify⟩

/-- A Prepare that must be closed fails with its declared fault. It was claimed, and no statement
was handed out that could be closed, but verification asks for one. -/
theorem finished_script_fails_after_fault :
    ∃ (w : World) (ops : List Operation) (text : String),
      ops = [.direct 0 (.expect .prepare ""), .direct 0 (.refine 0 .mustBeClosed),
        .direct 0 (.refine 0 (.error ⟨0, .message "prepare failed"⟩)), .prepareOn ⟨0, 0⟩ ""] ∧
      (w.session 0).records = [] ∧
      (∀ index < ((afterAll operate ops w).session 0).records.length,
        Chronicle.Claimed (w.momentsOf 0 ops) index) ∧
      (∀ p, ¬ Chronicle.HandedOut (w.momentsOf 0 ops) p) ∧
      ((afterAll operate ops w).session 0).verify = .error (.statementNotClosed text) := by
  refine ⟨{ sessions := [{ dsn := "" }] }, _, _, rfl, rfl, fun index hIndex => ?_, ?_, rfl⟩
  · obtain rfl : index = 0 := Nat.lt_one_iff.mp hIndex
    exact ⟨_, List.mem_of_getElem? (i := 3) rfl, rfl⟩
  · rintro p ⟨m, hm, hStatement⟩
    have hMem := List.mem_filterMap.mpr ⟨m, hm, hStatement⟩
    exact absurd hMem List.not_mem_nil

end World

end ScriptedDb
