import Mathlib.Algebra.Order.BigOperators.Group.Finset
import Mathlib.Data.Fintype.BigOperators
import ScriptedDb.Proofs.Race.Run

/-! A call without an answer can always take its turn, and every turn uses up one of finitely many.
-/

namespace ScriptedDb

variable {n : Nat} {α : Type}

/-- How many turns a call can still take among `total` expectations. -/
def Stage.remaining (total : Nat) : Stage α → Nat
  | .scanning next _ => total - next + 1
  | .stopped _ => 1
  | .answered .. => 0

theorem Stage.remaining_reach_lt {total next : Nat} (hLt : next < total) (p q : Progress) :
    (Stage.reach total (next + 1) q : Stage α).remaining total <
      (Stage.scanning next p : Stage α).remaining total := by
  unfold Stage.reach
  split <;> simp only [Stage.remaining] <;> omega

namespace Race

variable {ordered : Bool} {racers : Fin n → Racer α} {r r' : Race n α}

/-- How many turns a race can still take. -/
def remaining (r : Race n α) : Nat :=
  ∑ i, (r.stages i).remaining r.records.length

theorem remaining_step {turn : Turn n} (h : r.step ordered racers turn = some r') :
    r'.remaining < r.remaining := by
  have hOwn : (r'.stages turn.call).remaining r.records.length <
      (r.stages turn.call).remaining r.records.length := by
    cases turn with
    | answer i =>
      obtain ⟨verdict, hStage, rfl⟩ := step_answer_cases h
      simp [Turn.call, hStage, Stage.remaining]
    | attempt i =>
      obtain ⟨next, p, e, hStage, he, ⟨-, rfl⟩ | ⟨-, verdict, -, rfl⟩⟩ := step_attempt_cases h
      · obtain ⟨hLt, -⟩ := List.getElem?_eq_some_iff.mp he
        simpa [Turn.call, hStage] using Stage.remaining_reach_lt hLt p _
      · obtain ⟨hLt, -⟩ := List.getElem?_eq_some_iff.mp he
        simp only [Turn.call, stages_setStage, ↓reduceIte, hStage, Stage.remaining]
        omega
  unfold remaining
  rw [length_records_step h]
  refine Finset.sum_lt_sum (fun i _ => ?_) ⟨turn.call, Finset.mem_univ _, hOwn⟩
  by_cases hCall : i = turn.call
  · rw [hCall]
    exact hOwn.le
  · rw [stages_step h hCall]

theorem remaining_start_le (records : List Expectation) :
    (start records : Race n α).remaining ≤ n * (records.length + 1) := by
  have hEach (i : Fin n) : ((start records : Race n α).stages i).remaining records.length ≤
      records.length + 1 := by
    simp only [start, Stage.reach]
    split <;> simp [Stage.remaining]
  have hSum := Finset.sum_le_card_nsmul Finset.univ _ _ fun i _ => hEach i
  rwa [Finset.card_univ, Fintype.card_fin, Nat.nsmul_eq_mul] at hSum

/-- However its turns are scheduled, a race takes at most one attempt for every call and
expectation, and one answer for every call. -/
theorem Run.length_le {records : List Expectation} {turns : List (Turn n)}
    (run : Run ordered racers (start records) turns r) :
    turns.length ≤ n * (records.length + 1) := by
  have hUsed : turns.length + r.remaining ≤ (start records : Race n α).remaining := by
    induction run with
    | zero => simp
    | succ prior last ih =>
      have hLess := remaining_step last
      rw [List.length_append, List.length_singleton]
      omega
  have hStart := remaining_start_le (n := n) (α := α) records
  omega

/-- A scan that goes on has an expectation to attempt. -/
theorem Run.lt_of_scanning {records : List Expectation} {turns : List (Turn n)}
    (run : Run ordered racers (start records) turns r) {i : Fin n} {next : Nat} {p : Progress}
    (hStage : r.stages i = .scanning next p) : next < r.records.length := by
  have hReach (total m : Nat) (q : Progress)
      (h : (Stage.reach total m q : Stage α) = .scanning next p) : next < total := by
    unfold Stage.reach at h
    split at h
    · cases h
      assumption
    · cases h
  induction run with
  | zero => exact hReach _ _ _ hStage
  | @succ turns turn r r' prior last ih =>
    rw [length_records_step last]
    by_cases hCall : i = turn.call
    · cases turn with
      | answer j =>
        obtain rfl : i = j := hCall
        obtain ⟨verdict, -, rfl⟩ := step_answer_cases last
        simp at hStage
      | attempt j =>
        obtain rfl : i = j := hCall
        obtain ⟨m, q, e, -, he, ⟨-, rfl⟩ | ⟨-, verdict, -, rfl⟩⟩ := step_attempt_cases last
        · exact hReach _ _ _ (by simpa using hStage)
        · simp at hStage
    · rw [stages_step last hCall] at hStage
      exact ih hStage

/-- A call without an answer can take its turn, whatever the others do. -/
theorem Run.exists_turn {records : List Expectation} {turns : List (Turn n)}
    (run : Run ordered racers (start records) turns r) {i : Fin n}
    (hOpen : (r.stages i).answer? = none) :
    ∃ turn r', turn.call = i ∧ r.step ordered racers turn = some r' := by
  cases hStage : r.stages i with
  | scanning next p =>
    have he := List.getElem?_eq_getElem (run.lt_of_scanning hStage)
    have hSome : (r.step ordered racers (.attempt i)).isSome := by simp [step, hStage, he]
    obtain ⟨r', hStep⟩ := Option.isSome_iff_exists.mp hSome
    exact ⟨.attempt i, r', rfl, hStep⟩
  | stopped verdict =>
    have hSome : (r.step ordered racers (.answer i)).isSome := by simp [step, hStage]
    obtain ⟨r', hStep⟩ := Option.isSome_iff_exists.mp hSome
    exact ⟨.answer i, r', rfl, hStep⟩
  | answered verdict answer => simp [hStage, Stage.answer?] at hOpen

/-- Every race can be finished from every moment on. -/
theorem Run.exists_done {records : List Expectation} {turns : List (Turn n)}
    (run : Run ordered racers (start records) turns r) :
    ∃ more r', Run ordered racers (start records) (turns ++ more) r' ∧ r'.Done := by
  induction hLeft : r.remaining using Nat.strong_induction_on generalizing r turns with
  | _ left ih =>
    by_cases hDone : r.Done
    · exact ⟨[], r, by rwa [List.append_nil], hDone⟩
    · obtain ⟨i, hOpen⟩ := not_forall.mp hDone
      obtain ⟨turn, r', -, hStep⟩ := run.exists_turn (i := i) (by simpa using hOpen)
      have hLess : r'.remaining < left := hLeft ▸ remaining_step hStep
      obtain ⟨more, r'', run', hDone'⟩ := ih _ hLess (run.succ hStep) rfl
      rw [List.append_assoc] at run'
      exact ⟨_, r'', run', hDone'⟩

end Race

end ScriptedDb
