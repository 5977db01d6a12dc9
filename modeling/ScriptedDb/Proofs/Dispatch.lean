import ScriptedDb.Proofs.Scan

/-! What a dispatch does, said without a scan. -/

namespace ScriptedDb

variable {call : Call} {records : List Expectation} {index : Nat} {e : Expectation}

def Expectation.refusal (e : Expectation) (call : Call) : Error :=
  match e.attempt call with
  | .rejected rejection => rejection.error call e.describe
  | _ => .unexpectedCall call.describe e.describe

namespace Expectation

theorem refusal_of_kind_ne (hPending : e.fulfilled = false) (hKind : e.kind ≠ call.kind) :
    e.refusal call = .unexpectedCall call.describe e.describe := by
  simp [refusal, attempt, hPending, hKind]

theorem refusal_of_rejection? {rejection : Rejection} (hPending : e.fulfilled = false)
    (hKind : e.kind = call.kind) (hRejection : e.rejection? call = some rejection) :
    e.refusal call = rejection.error call e.describe := by
  simp [refusal, attempt_of_pending hPending hKind, hRejection]

/-- A refusal names what is next, so it is never that nothing was expected. -/
theorem refusal_ne_notExpected (text : String) (allFulfilled : Bool) :
    e.refusal call ≠ .notExpected text allFulfilled := by
  unfold refusal
  split
  · rename_i rejection _
    cases rejection <;> exact Error.noConfusion
  · exact Error.noConfusion

end Expectation

/-- A dispatch claims the first expectation that its scan may claim, and changes no other one. -/
theorem dispatch_of_takes {config : Config} (hPasses : Passes config.ordered call records index)
    (he : records[index]? = some e) (hTakes : e.takes call = true) :
    dispatch config call records =
      { answer := .ok (some ⟨index, e.outcome⟩)
        state := records.set index e.fulfil
        events := [.claimed call.kind index] } := by
  obtain ⟨v, hVerdict, hScan⟩ :=
    scan_of_stop hPasses he (Expectation.stops_of_takes config.ordered hTakes)
  rw [Expectation.attempt_of_takes hTakes] at hVerdict
  obtain rfl := Option.some.inj hVerdict
  rw [set_tryClaim he, if_pos hTakes] at hScan
  simp only [dispatch, hScan, Verdict.answer, Verdict.events]

/-- The first expectation that stops a scan is claimed if it takes the call. -/
theorem dispatch_of_first_takes (config : Config)
    (hFirst : First (Expectation.stops config.ordered call) records index e)
    (hTakes : e.takes call = true) :
    (dispatch config call records).answer = .ok (some ⟨index, e.outcome⟩) ∧
      (dispatch config call records).state = records.set index e.fulfil := by
  rw [dispatch_of_takes hFirst.before hFirst.found hTakes]
  exact ⟨rfl, rfl⟩

/-- If it does not take the call it refuses it, and nothing changes. -/
theorem dispatch_of_first_refuses (config : Config)
    (hFirst : First (Expectation.stops config.ordered call) records index e)
    (hTakes : e.takes call = false) :
    (dispatch config call records).answer = .error (e.refusal call) ∧
      (dispatch config call records).state = records := by
  obtain ⟨v, hVerdict, hScan⟩ := scan_of_stop hFirst.before hFirst.found hFirst.holds
  rw [set_tryClaim hFirst.found, hTakes] at hScan
  simp only [dispatch, hScan]
  refine ⟨?_, rfl⟩
  unfold Expectation.refusal
  cases hAttempt : e.attempt call with
  | claimed outcome =>
    rw [Expectation.takes_of_attempt hAttempt] at hTakes
    cases hTakes
  | alreadyFulfilled => simp [hAttempt, Attempt.verdict?] at hVerdict
  | wrongKind | rejected =>
    simp only [hAttempt, Attempt.verdict?, Option.some.injEq] at hVerdict
    subst hVerdict
    simp [Verdict.answer, describeAt, hFirst.found]

namespace Progress

theorem fulfilled_pass (p : Progress) (call : Call) (index : Nat) (e : Expectation) :
    (p.pass call index e).fulfilled = p.fulfilled + if e.fulfilled then 1 else 0 := by
  cases hDone : e.fulfilled with
  | true => simp [pass, Expectation.attempt_eq_alreadyFulfilled_iff.mpr hDone]
  | false =>
    have hAttempt : e.attempt call ≠ .alreadyFulfilled := by
      intro h
      rw [Expectation.attempt_eq_alreadyFulfilled_iff.mp h] at hDone
      cases hDone
    unfold pass
    split
    · contradiction
    · rfl
    · rfl

theorem conversion_pass (p : Progress) (call : Call) (index : Nat) (e : Expectation) :
    (p.pass call index e).conversion =
      p.conversion.or ((e.incomparable? call).map fun failure => (index, failure)) := by
  have hNone (h : ∀ failure, e.attempt call ≠ .rejected (.conversion failure)) :
      e.incomparable? call = none := by
    cases hFailure : e.incomparable? call with
    | none => rfl
    | some failure => exact absurd (Expectation.attempt_eq_conversion_iff.mpr hFailure) (h failure)
  unfold pass
  split
  · rename_i hAttempt
    simp [hNone fun failure => by simp [hAttempt]]
  · rename_i failure hAttempt
    simp [note, Expectation.attempt_eq_conversion_iff.mp hAttempt]
  · rename_i hAttempt
    simp [hNone hAttempt]

/-- A scan counts the fulfilled expectations that it goes past. -/
theorem fulfilled_passAll (p : Progress) (call : Call) (index : Nat) (l : List Expectation) :
    (p.passAll call index l).fulfilled = p.fulfilled + l.countP Expectation.fulfilled := by
  induction l generalizing p index with
  | nil => simp [passAll]
  | cons e l ih =>
    rw [passAll, ih, fulfilled_pass, List.countP_cons]
    omega

/-- A scan remembers the first expectation on its way that cannot compare the arguments. -/
theorem conversion_passAll (p : Progress) (call : Call) {index : Nat} {l : List Expectation}
    (h : records.drop index = l) :
    ((p.passAll call index l).conversion.map fun failed => (describeAt records failed.1, failed.2)) =
      (p.conversion.map fun failed => (describeAt records failed.1, failed.2)).or
        (l.findSome? fun e => (e.incomparable? call).map fun failure => (e.describe, failure)) := by
  induction l generalizing p index with
  | nil => simp [passAll]
  | cons e l ih =>
    have he : records[index]? = some e := by
      rw [← List.head?_drop, h, List.head?_cons]
    have hTail : records.drop (index + 1) = l := by
      rw [← List.tail_drop, h, List.tail_cons]
    rw [passAll, ih _ hTail, conversion_pass, List.findSome?_cons]
    cases p.conversion with
    | some failed => simp
    | none =>
      cases e.incomparable? call with
      | none => simp
      | some failure => simp [describeAt, he]

end Progress

/-- What a call is told that nothing has stopped: leniently that it is tolerated; strictly which
comparison failed first, or, if none did, that the call was not expected. -/
def unmatched (strict : Bool) (call : Call) (records : List Expectation) :
    Except Error (Option Claim) :=
  if strict then
    match records.findSome? fun e =>
        (e.incomparable? call).map fun failure => (e.describe, failure) with
    | some (expectation, failure) => .error ((Rejection.conversion failure).error call expectation)
    | none => .error (.notExpected call.describe (records.all Expectation.fulfilled))
  else .ok none

/-- A strict call that nothing has stopped fails in one of two ways. -/
theorem unmatched_strict (call : Call) (records : List Expectation) :
    (∃ expectation failure, unmatched true call records =
        .error ((Rejection.conversion failure).error call expectation)) ∨
      unmatched true call records =
        .error (.notExpected call.describe (records.all Expectation.fulfilled)) := by
  simp only [unmatched, ↓reduceIte]
  split
  · exact .inl ⟨_, _, rfl⟩
  · exact .inr rfl

theorem Verdict.answer_exhausted (strict : Bool) (call : Call) (records : List Expectation) :
    (Verdict.exhausted (({} : Progress).passAll call 0 records)).answer strict call records =
      unmatched strict call records := by
  have hCount := Progress.fulfilled_passAll {} call 0 records
  have hFailed := Progress.conversion_passAll {} call (List.drop_zero (l := records))
  have hAll : (records.countP Expectation.fulfilled == records.length) =
      records.all Expectation.fulfilled := by
    rw [Bool.eq_iff_iff, beq_iff_eq, List.countP_eq_length, List.all_eq_true]
  cases strict with
  | false => rfl
  | true =>
    simp only [Option.map_none, Option.none_or] at hFailed
    simp only [answer, unmatched, ↓reduceIte, ← hFailed, hCount, Nat.zero_add, hAll]
    cases (({} : Progress).passAll call 0 records).conversion <;> rfl

/-- A dispatch that nothing stops changes nothing and answers from all expectations. -/
theorem dispatch_of_none (config : Config)
    (h : ∀ e ∈ records, e.stops config.ordered call = false) :
    (dispatch config call records).answer = unmatched config.requireExpectations call records ∧
      (dispatch config call records).state = records := by
  have hPasses : Passes config.ordered call records records.length :=
    fun e he => h e (List.mem_of_mem_take he)
  simp only [dispatch, scan_of_passes hPasses]
  exact ⟨Verdict.answer_exhausted _ call records, trivial⟩

/-- Where everything is fulfilled nothing can be claimed or compared. -/
theorem dispatch_of_all_fulfilled (config : Config) (call : Call)
    (hAll : ∀ e ∈ records, e.fulfilled = true) :
    (dispatch config call records).answer =
        (if config.requireExpectations then .error (.notExpected call.describe true)
          else .ok none) ∧
      (dispatch config call records).state = records := by
  have hNoFailure : (records.findSome? fun e =>
      (e.incomparable? call).map fun failure => (e.describe, failure)) = none := by
    rw [List.findSome?_eq_none_iff]
    intro e he
    rw [Expectation.incomparable?_of_fulfilled (hAll e he), Option.map_none]
  have hEvery : records.all Expectation.fulfilled = true := List.all_eq_true.mpr hAll
  obtain ⟨hAnswer, hState⟩ := dispatch_of_none config
    fun e he => Expectation.stops_of_fulfilled (hAll e he) config.ordered call
  refine ⟨?_, hState⟩
  rw [hAnswer, unmatched, hNoFailure, hEvery]

end ScriptedDb
