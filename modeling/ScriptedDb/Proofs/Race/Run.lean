import Mathlib.Data.List.Induction
import ScriptedDb.Proofs.Scan
import ScriptedDb.Race

/-! The scans of a race see expectations at different moments, while other calls claim some of them.
`Reached` is what a scan may still rely on, and `Run.reached` carries it through every run. -/

namespace ScriptedDb

variable {n : Nat} {α : Type}

/-- How many expectations a scan has gone past without being stopped, and what it learned. -/
def Stage.reached? (total : Nat) : Stage α → Option (Nat × Progress)
  | .scanning next p => some (next, p)
  | .stopped (.exhausted p) => some (total, p)
  | .answered (.exhausted p) _ => some (total, p)
  | _ => none

theorem Stage.reached?_reach {total next : Nat} (hNext : next ≤ total) (p : Progress) :
    (Stage.reach total next p : Stage α).reached? total = some (next, p) := by
  unfold Stage.reach
  split
  · rfl
  · obtain rfl : next = total := by omega
    rfl

theorem Stage.reached?_stopped_of_verdict? {total index : Nat} {attempt : Attempt}
    {verdict : Verdict} (h : attempt.verdict? index = some verdict) :
    (Stage.stopped verdict : Stage α).reached? total = none := by
  cases attempt <;> simp only [Attempt.verdict?, Option.some.injEq, reduceCtorEq] at h <;>
    subst h <;> rfl

namespace Race

/-- The turns of a race, one after another. Each is the turn that its call has to take. -/
inductive Run (ordered : Bool) (racers : Fin n → Racer α) (start : Race n α) :
    List (Turn n) → Race n α → Prop where
  | zero : Run ordered racers start [] start
  | succ {turns : List (Turn n)} {turn : Turn n} {r r' : Race n α}
      (prior : Run ordered racers start turns r)
      (last : r.step ordered racers turn = some r') :
      Run ordered racers start (turns ++ [turn]) r'

variable {ordered : Bool} {racers : Fin n → Racer α} {r r' : Race n α} {i : Fin n}

/-- Turns taken one after another by evaluation make a run. -/
theorem run_of_foldlM {first : Race n α} {turns : List (Turn n)}
    (h : turns.foldlM (step ordered racers) first = some r) : Run ordered racers first turns r := by
  induction turns using List.reverseRecOn generalizing r with
  | nil =>
    obtain rfl : first = r := by simpa using h
    exact .zero
  | append_singleton turns turn ih =>
    rw [List.foldlM_append, Option.bind_eq_bind, Option.bind_eq_some_iff] at h
    obtain ⟨middle, hPrior, hLast⟩ := h
    exact .succ (ih hPrior) (by simpa using hLast)

@[simp] theorem records_setStage (r : Race n α) (i : Fin n) (stage : Stage α) :
    (r.setStage i stage).records = r.records := rfl

@[simp] theorem stages_setStage (r : Race n α) (i j : Fin n) (stage : Stage α) :
    (r.setStage i stage).stages j = if j = i then stage else r.stages j := rfl

/-- What an attempt can do: go past the expectation, or stop there, having claimed it if the
expectation takes the call. -/
theorem step_attempt_cases (h : r.step ordered racers (.attempt i) = some r') :
    ∃ next p e, r.stages i = .scanning next p ∧ r.records[next]? = some e ∧
      ((e.stops ordered (racers i).call = false ∧
          r' = r.setStage i
            (.reach r.records.length (next + 1) (p.pass (racers i).call next e))) ∨
        (e.stops ordered (racers i).call = true ∧
          ∃ verdict, (e.attempt (racers i).call).verdict? next = some verdict ∧
            r' = { r with records := r.records.set next (e.tryClaim (racers i).call).2 }.setStage i
              (.stopped verdict))) := by
  simp only [step] at h
  split at h
  · rename_i next p hStage
    rw [Option.map_eq_some_iff] at h
    obtain ⟨e, he, rfl⟩ := h
    refine ⟨next, p, e, hStage, he, ?_⟩
    cases hStop : e.stops ordered (racers i).call with
    | false =>
      left
      have hTakes := Expectation.takes_eq_false_of_stops_eq_false hStop
      simp [Progress.observe_of_pass hStop, set_tryClaim he, hTakes, Stage.proceed]
    | true =>
      right
      obtain ⟨verdict, hVerdict, hObserve⟩ := Progress.observe_of_stop hStop next
      refine ⟨rfl, verdict, hVerdict, ?_⟩
      simp [hObserve, Stage.proceed]
  · cases h

theorem step_answer_cases (h : r.step ordered racers (.answer i) = some r') :
    ∃ verdict, r.stages i = .stopped verdict ∧
      r' = r.setStage i (.answered verdict ((racers i).conclude r.records verdict)) := by
  simp only [step] at h
  split at h
  · rename_i verdict hStage
    obtain rfl := Option.some.inj h
    exact ⟨verdict, hStage, rfl⟩
  · cases h

theorem stages_step {turn : Turn n} (h : r.step ordered racers turn = some r')
    (hNe : i ≠ turn.call) : r'.stages i = r.stages i := by
  cases turn with
  | answer j =>
    have hNe : i ≠ j := hNe
    obtain ⟨verdict, -, rfl⟩ := step_answer_cases h
    simp [hNe]
  | attempt j =>
    have hNe : i ≠ j := hNe
    obtain ⟨next, p, e, -, -, ⟨-, rfl⟩ | ⟨-, verdict, -, rfl⟩⟩ := step_attempt_cases h
    · simp [hNe]
    · simp [hNe]

/-- A scan ends only by an attempt of its own. -/
theorem verdict?_step {turn : Turn n} (h : r.step ordered racers turn = some r')
    (hNe : turn ≠ .attempt i) : (r'.stages i).verdict? = (r.stages i).verdict? := by
  by_cases hCall : i = turn.call
  · cases turn with
    | attempt j => exact absurd (congrArg Turn.attempt hCall.symm) hNe
    | answer j =>
      obtain rfl : i = j := hCall
      obtain ⟨verdict, hStage, rfl⟩ := step_answer_cases h
      simp [hStage, Stage.verdict?]
  · rw [stages_step h hCall]

/-- An answer is drawn in a turn of its call, and stays. -/
theorem answered_step {turn : Turn n} (h : r.step ordered racers turn = some r')
    {verdict : Verdict} {answer : Except Error α}
    (hStage : r'.stages i = .answered verdict answer) :
    (turn = .answer i ∧ answer = (racers i).conclude r.records verdict) ∨
      r.stages i = .answered verdict answer := by
  by_cases hCall : i = turn.call
  · left
    cases turn with
    | answer j =>
      obtain rfl : i = j := hCall
      obtain ⟨w, -, rfl⟩ := step_answer_cases h
      obtain ⟨rfl, rfl⟩ : w = verdict ∧ (racers i).conclude r.records w = answer := by
        simpa using hStage
      exact ⟨rfl, rfl⟩
    | attempt j =>
      obtain rfl : i = j := hCall
      obtain ⟨next, p, e, -, -, ⟨-, rfl⟩ | ⟨-, w, -, rfl⟩⟩ := step_attempt_cases h
      · simp only [stages_setStage, ↓reduceIte, Stage.reach] at hStage
        split at hStage <;> cases hStage
      · simp at hStage
  · right
    rw [← stages_step h hCall, hStage]

/-- A turn changes the expectations by at most one claim, of one that takes the call. -/
theorem records_step {turn : Turn n} (h : r.step ordered racers turn = some r') :
    r'.records = r.records ∨ ∃ j index e, r.records[index]? = some e ∧
      e.takes (racers j).call = true ∧ r'.records = r.records.set index e.fulfil := by
  cases turn with
  | answer i =>
    obtain ⟨verdict, hStage, rfl⟩ := step_answer_cases h
    exact .inl rfl
  | attempt i =>
    obtain ⟨next, p, e, hStage, he, ⟨hStop, rfl⟩ | ⟨hStop, verdict, hVerdict, rfl⟩⟩ :=
      step_attempt_cases h
    · exact .inl rfl
    · simp only [records_setStage, set_tryClaim he]
      cases hTakes : e.takes (racers i).call with
      | true => exact .inr ⟨i, next, e, he, hTakes, rfl⟩
      | false => exact .inl rfl

theorem length_records_step {turn : Turn n} (h : r.step ordered racers turn = some r') :
    r'.records.length = r.records.length := by
  rcases records_step h with hSame | ⟨j, index, e, he, hTakes, hSet⟩
  · rw [hSame]
  · rw [hSet, List.length_set]

/-- An answer was drawn from the verdict of its scan at some moment of the race. -/
theorem Run.answer_eq {records : List Expectation} {turns : List (Turn n)}
    (run : Run ordered racers (start records) turns r) {verdict : Verdict}
    {answer : Except Error α} (hStage : r.stages i = .answered verdict answer) :
    ∃ seen, answer = (racers i).conclude seen verdict ∧ seen.length = r.records.length := by
  induction run with
  | zero =>
    simp only [start, Stage.reach] at hStage
    split at hStage <;> cases hStage
  | @succ turns turn r r' prior last ih =>
    rw [length_records_step last]
    rcases answered_step last hStage with ⟨-, rfl⟩ | hBefore
    · exact ⟨r.records, rfl, rfl⟩
    · exact ih hBefore

/-- What a scan that has gone past the first `next` expectations knows about them as they are. -/
structure Reached (ordered : Bool) (call : Call) (records : List Expectation) (next : Nat)
    (p : Progress) : Prop where
  next_le : next ≤ records.length
  passes : Passes ordered call records next
  fulfilled_le : p.fulfilled ≤ next
  all_fulfilled : p.fulfilled = next → ∀ e ∈ records.take next, e.fulfilled = true

namespace Reached

variable {call : Call} {records : List Expectation} {next : Nat} {p : Progress}

theorem zero (ordered : Bool) (call : Call) (records : List Expectation) :
    Reached ordered call records 0 {} where
  next_le := Nat.zero_le _
  passes := .zero ordered call records
  fulfilled_le := Nat.le_refl _
  all_fulfilled := by simp

/-- Going past one more expectation. It is counted only if it is fulfilled, and one that is not
leaves the count behind for good. -/
theorem succ (h : Reached ordered call records next p) {e : Expectation}
    (he : records[next]? = some e) (hPass : e.stops ordered call = false) :
    Reached ordered call records (next + 1) (p.pass call next e) := by
  obtain ⟨hLt, -⟩ := List.getElem?_eq_some_iff.mp he
  have hLe := h.fulfilled_le
  refine ⟨hLt, h.passes.succ he hPass, ?_, ?_⟩
  · unfold Progress.pass
    split
    · exact Nat.succ_le_succ hLe
    · exact Nat.le_succ_of_le hLe
    · exact Nat.le_succ_of_le hLe
  · intro hCount
    have hDone : e.fulfilled = true ∧ p.fulfilled = next := by
      unfold Progress.pass at hCount
      split at hCount
      · rename_i hAttempt
        simp only [Nat.add_right_cancel_iff] at hCount
        exact ⟨Expectation.attempt_eq_alreadyFulfilled_iff.mp hAttempt, hCount⟩
      · simp only [Progress.note] at hCount
        omega
      · omega
    intro e' he'
    rw [List.take_add_one, he] at he'
    rcases List.mem_append.mp he' with he' | he'
    · exact h.all_fulfilled hDone.2 e' he'
    · obtain rfl : e' = e := by simpa using he'
      exact hDone.1

/-- Flags only go up, so what a scan knows stays true while others claim. -/
theorem set_fulfil (h : Reached ordered call records next p) (index : Nat) (e : Expectation) :
    Reached ordered call (records.set index e.fulfil) next p where
  next_le := by simpa using h.next_le
  passes := h.passes.set_fulfil index e
  fulfilled_le := h.fulfilled_le
  all_fulfilled := by
    intro hCount e' he'
    rw [List.take_set] at he'
    rcases List.mem_or_eq_of_mem_set he' with he' | rfl
    · exact h.all_fulfilled hCount e' he'
    · exact Expectation.fulfilled_fulfil e

end Reached

/-- Induction over the scans of a race. What holds of a scan that has seen nothing, is kept when the
scan goes past one more expectation, and is kept when a call of the race claims any expectation,
holds at every moment of every scan that nothing has stopped. -/
theorem Run.scan_induction {records : List Expectation} {turns : List (Turn n)}
    {motive : Fin n → List Expectation → Nat → Progress → Prop}
    (zero : ∀ i, motive i records 0 {})
    (succ : ∀ i records next p e, motive i records next p → records[next]? = some e →
      e.stops ordered (racers i).call = false →
      motive i records (next + 1) (p.pass (racers i).call next e))
    (claim : ∀ i j records next p index e, motive i records next p → records[index]? = some e →
      e.takes (racers j).call = true → motive i (records.set index e.fulfil) next p)
    (run : Run ordered racers (start records) turns r) {i : Fin n} {next : Nat} {p : Progress}
    (hReached : (r.stages i).reached? r.records.length = some (next, p)) :
    motive i r.records next p := by
  induction run generalizing i next p with
  | zero =>
    have hStart := Stage.reached?_reach (α := α) (Nat.zero_le records.length) {}
    simp only [start] at hReached ⊢
    rw [hStart] at hReached
    obtain ⟨rfl, rfl⟩ : 0 = next ∧ {} = p := by simpa using hReached
    exact zero i
  | @succ turns turn r r' prior last ih =>
    rw [length_records_step last] at hReached
    have hOthers : motive i r.records next p → motive i r'.records next p := by
      intro h
      rcases records_step last with hSame | ⟨j, index, e, he, hTakes, hSet⟩
      · rwa [hSame]
      · rw [hSet]
        exact claim i j r.records next p index e h he hTakes
    cases turn with
    | answer j =>
      refine hOthers (ih ?_)
      obtain ⟨verdict, hStage, rfl⟩ := step_answer_cases last
      by_cases hEq : i = j
      · subst hEq
        cases verdict with
        | exhausted q => simpa [hStage, Stage.reached?] using hReached
        | claimed | outOfOrder | rejected => simp [Stage.reached?] at hReached
      · simpa [hEq] using hReached
    | attempt j =>
      obtain ⟨k, q, e, hStage, he, ⟨hStop, rfl⟩ | ⟨hStop, verdict, hVerdict, rfl⟩⟩ :=
        step_attempt_cases last
      · by_cases hEq : i = j
        · subst hEq
          obtain ⟨hLt, -⟩ := List.getElem?_eq_some_iff.mp he
          simp only [stages_setStage, ↓reduceIte, Stage.reached?_reach hLt] at hReached
          obtain ⟨rfl, rfl⟩ : k + 1 = next ∧ q.pass (racers i).call k e = p := by
            simpa using hReached
          exact succ i r.records k q e (ih (by simp [hStage, Stage.reached?])) he hStop
        · exact hOthers (ih (by simpa [hEq] using hReached))
      · by_cases hEq : i = j
        · simp [hEq, Stage.reached?_stopped_of_verdict? hVerdict] at hReached
        · exact hOthers (ih (by simpa [hEq] using hReached))

/-- At every moment of a race, every scan that nothing has stopped knows what `Reached` says. -/
theorem Run.reached {records : List Expectation} {turns : List (Turn n)}
    (run : Run ordered racers (start records) turns r) {i : Fin n} {next : Nat} {p : Progress}
    (hReached : (r.stages i).reached? r.records.length = some (next, p)) :
    Reached ordered (racers i).call r.records next p :=
  run.scan_induction (motive := fun i => Reached ordered (racers i).call)
    (fun i => .zero ordered (racers i).call records)
    (fun _ _ _ _ _ h he hPass => h.succ he hPass)
    (fun _ _ _ _ _ index e h _ _ => h.set_fulfil index e)
    hReached

/-- Whatever one call of a race may claim would stop the scans of all others. So no scan goes past
an expectation that is claimed later. -/
def Contested (ordered : Bool) (racers : Fin n → Racer α) : Prop :=
  ∀ i j (e : Expectation), e.takes (racers j).call = true →
    e.stops ordered (racers i).call = true

theorem contested_of_ordered (racers : Fin n → Racer α) : Contested true racers := by
  intro i j e hTakes
  simp [Expectation.stops, Expectation.pending_of_takes hTakes]

/-- Copies of one call want the same expectations. -/
theorem contested_of_same (ordered : Bool) (racer : Racer α) :
    Contested ordered fun _ : Fin n => racer :=
  fun _ _ _ hTakes => Expectation.stops_of_takes ordered hTakes

/-- Where all calls want the same expectations, a scan has learned what one would learn that went
past the expectations as they are now. -/
theorem Run.progress_of_contested {records : List Expectation} {turns : List (Turn n)}
    (hContested : Contested ordered racers)
    (run : Run ordered racers (start records) turns r) {i : Fin n} {next : Nat} {p : Progress}
    (hReached : (r.stages i).reached? r.records.length = some (next, p)) :
    p = ({} : Progress).passAll (racers i).call 0 (r.records.take next) := by
  have h := run.scan_induction
    (motive := fun i records next p => Passes ordered (racers i).call records next ∧
      next ≤ records.length ∧
      p = ({} : Progress).passAll (racers i).call 0 (records.take next)) ?_ ?_ ?_ hReached
  · exact h.2.2
  · intro i
    exact ⟨.zero ordered _ records, Nat.zero_le _, by simp [Progress.passAll]⟩
  · rintro i records next p e ⟨hPasses, hLe, hProgress⟩ he hPass
    obtain ⟨hLt, -⟩ := List.getElem?_eq_some_iff.mp he
    refine ⟨hPasses.succ he hPass, hLt, ?_⟩
    rw [List.take_add_one, he, Progress.passAll_append, ← hProgress, List.length_take_of_le hLe]
    simp [Progress.passAll]
  · rintro i j records next p index e ⟨hPasses, hLe, hProgress⟩ he hTakes
    have hBeyond : next ≤ index := hPasses.le_of_stops he (hContested i j e hTakes)
    refine ⟨hPasses.set_fulfil index e, by simpa using hLe, ?_⟩
    rw [List.take_set_of_le hBeyond]
    exact hProgress

end Race

end ScriptedDb
