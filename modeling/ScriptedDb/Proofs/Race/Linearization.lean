import ScriptedDb.History
import ScriptedDb.Proofs.Race.Serial

namespace ScriptedDb

def claimedIndex? : Except Error (Option Claim) → Option Nat
  | .ok (some claim) => some claim.index
  | _ => none

def errorCode? {α : Type} : Except Error α → Option String
  | .ok _ => none
  | .error e => some e.code

theorem Verdict.Similar.claimed?_eq {v w : Verdict} (h : v.Similar w) :
    v.claimed? = w.claimed? := by
  cases v <;> cases w <;> simp_all [Verdict.Similar, Verdict.claimed?]

namespace Verdict

theorem claimedIndex?_answer (strict : Bool) (call : Call) (records : List Expectation)
    (v : Verdict) : claimedIndex? (v.answer strict call records) = v.claimed? := by
  cases v with
  | claimed | outOfOrder | rejected => rfl
  | exhausted p =>
    cases strict with
    | false => rfl
    | true =>
      cases hConversion : p.conversion <;>
        simp [answer, hConversion, claimedIndex?, claimed?]

/-- The name of an error depends neither on the call nor on what is described. -/
theorem errorCode?_answer (strict : Bool) (call call' : Call) (records records' : List Expectation)
    (v : Verdict) :
    errorCode? (v.answer strict call records) = errorCode? (v.answer strict call' records') := by
  cases v with
  | claimed | outOfOrder => rfl
  | rejected index rejection => cases rejection <;> rfl
  | exhausted p =>
    cases strict with
    | false => rfl
    | true =>
      cases hConversion : p.conversion <;>
        simp [answer, hConversion, errorCode?, Rejection.error, Error.code]

/-- A call is told that everything was fulfilled only where its scan counted everything. -/
theorem fulfilled_eq_of_answer {strict : Bool} {call : Call} {records : List Expectation}
    {v : Verdict} {text : String}
    (h : v.answer strict call records = .error (.notExpected text true)) :
    ∃ p, v = .exhausted p ∧ p.fulfilled = records.length := by
  cases v with
  | claimed | outOfOrder => simp [answer] at h
  | rejected index rejection => cases rejection <;> simp [answer, Rejection.error] at h
  | exhausted p =>
    refine ⟨p, rfl, ?_⟩
    cases strict with
    | false => cases h
    | true =>
      cases hConversion : p.conversion with
      | some failed => simp [answer, hConversion, Rejection.error] at h
      | none =>
        simp only [answer, hConversion, ↓reduceIte, Except.error.injEq, Error.notExpected.injEq,
          beq_iff_eq] at h
        exact h.2

end Verdict

theorem afterAll_dispatch (config : Config) (calls : List Call) (records : List Expectation) :
    afterAll (dispatch config) calls records = (scanAll config.ordered calls records).2 := by
  induction calls generalizing records with
  | nil => rfl
  | cons call calls ih => exact ih _

/-- What is seen of the answers to calls dispatched one after another, where it depends on their
verdicts alone. -/
theorem answers_dispatch {γ : Type} (config : Config) (view : Except Error (Option Claim) → γ)
    (verdictView : Verdict → γ)
    (hView : ∀ call records (v : Verdict),
      view (v.answer config.requireExpectations call records) = verdictView v)
    (calls : List Call) (records : List Expectation) :
    (answers (dispatch config) calls records).map view =
      (scanAll config.ordered calls records).1.map verdictView := by
  induction calls generalizing records with
  | nil => rfl
  | cons call calls ih =>
    have hTail := ih (scan config.ordered call 0 {} records).2
    simp only [answers, history_cons, List.map_cons] at hTail ⊢
    exact congrArg₂ List.cons (hView _ _ _) hTail

namespace Race

variable {n : Nat} {α : Type} {ordered : Bool} {racers : Fin n → Racer α} {r : Race n α}

theorem isOver_of_done (h : r.Done) (i : Fin n) : r.isOver i = true := by
  have hAnswered := h i
  unfold isOver
  cases hStage : r.stages i <;> simp_all [Stage.answer?, Stage.verdict?]

/-- What is seen of the verdicts of a finished race, where it is the same for verdicts that match,
is what is seen of the verdicts in the serial order. -/
theorem Run.serial_view {γ : Type} {records : List Expectation} {turns : List (Turn n)}
    (run : Run ordered racers (start records) turns r) (hDone : r.Done) (view : Verdict → γ)
    (hView : ∀ v w : Verdict, v.Similar w → (Contested ordered racers → v = w) →
      view v = view w) :
    (scanAll ordered ((serialOrder turns).map fun i => (racers i).call) records).2 = r.records ∧
      (serialOrder turns).map (fun i => (r.stages i).verdict?.map view) =
        (scanAll ordered ((serialOrder turns).map fun i => (racers i).call) records).1.map
          fun w => some (view w) := by
  have hAll : (serialOrder turns).filter r.isOver = serialOrder turns :=
    List.filter_eq_self.mpr fun i _ => isOver_of_done hDone i
  obtain ⟨hRecords, hVerdicts⟩ := run.serialized
  rw [hAll] at hRecords hVerdicts
  refine ⟨hRecords, ?_⟩
  rw [← List.forall₂_eq_eq_eq, List.forall₂_map_left_iff, List.forall₂_map_right_iff]
  rw [List.forall₂_map_left_iff] at hVerdicts
  refine hVerdicts.imp ?_
  rintro i w ⟨v, hv, hSimilar, hEq⟩
  rw [hv, Option.map_some, hView v w hSimilar hEq]

/-- What is seen of an answer, where it depends on the verdict alone. -/
theorem Run.answer?_view {γ : Type} {records : List Expectation} {turns : List (Turn n)}
    (run : Run ordered racers (start records) turns r) (hDone : r.Done)
    (view : Except Error α → γ) (verdictView : Verdict → γ)
    (hView : ∀ i seen v, view ((racers i).conclude seen v) = verdictView v) (i : Fin n) :
    (r.stages i).answer?.map view = (r.stages i).verdict?.map verdictView := by
  have hAnswered := hDone i
  cases hStage : r.stages i with
  | scanning | stopped => simp [hStage, Stage.answer?] at hAnswered
  | answered v answer =>
    obtain ⟨seen, rfl, -⟩ := run.answer_eq hStage
    simp [Stage.answer?, Stage.verdict?, hView]

/-- Concurrent dispatch is linearizable on claims, in every mode and for every interleaving of the
attempts. A call is told that everything was fulfilled only when it is. At the end of a race,
dispatching the calls one after another in the order of their last attempts leaves the same
expectations, and every call claims the same one or none; in ordered mode the calls also fail in the
same way. -/
theorem dispatch_linearizable (config : Config) (calls : Fin n → Call)
    (records : List Expectation) {turns : List (Turn n)} {r : Race n (Option Claim)}
    (run : Run config.ordered (fun i => (calls i).racer config) (start records) turns r) :
    (∀ i text, (r.stages i).answer? = some (.error (.notExpected text true)) →
      ∀ e ∈ r.records, e.fulfilled = true) ∧
    (r.Done →
      (serialOrder turns).Perm (List.finRange n) ∧
      afterAll (dispatch config) ((serialOrder turns).map calls) records = r.records ∧
      (serialOrder turns).map (fun i => (r.stages i).answer?.map claimedIndex?) =
        (answers (dispatch config) ((serialOrder turns).map calls) records).map
          (fun answer => some (claimedIndex? answer)) ∧
      (config.ordered = true →
        (serialOrder turns).map (fun i => (r.stages i).answer?.map errorCode?) =
          (answers (dispatch config) ((serialOrder turns).map calls) records).map
            fun answer => some (errorCode? answer))) := by
  refine ⟨?_, fun hDone => ⟨serialOrder_perm turns, ?_, ?_, ?_⟩⟩
  · intro i text hAnswer
    cases hStage : r.stages i with
    | scanning | stopped => simp [hStage, Stage.answer?] at hAnswer
    | answered v answer =>
      obtain ⟨seen, rfl, hLength⟩ := run.answer_eq hStage
      rw [hStage] at hAnswer
      obtain ⟨p, rfl, hCount⟩ := Verdict.fulfilled_eq_of_answer (Option.some.inj hAnswer)
      have hReached := run.reached (i := i) (by rw [hStage]; rfl)
      simpa using hReached.all_fulfilled (hCount.trans hLength)
  · rw [afterAll_dispatch]
    exact (run.serial_view hDone Verdict.claimed? fun v w h _ => h.claimed?_eq).1
  · have hSerial := (run.serial_view hDone Verdict.claimed? fun v w h _ => h.claimed?_eq).2
    have hAnswer := run.answer?_view hDone claimedIndex? Verdict.claimed? fun i seen v =>
      v.claimedIndex?_answer config.requireExpectations (calls i) seen
    rw [answers_dispatch config _ (fun v => some v.claimed?) fun call seen v =>
      congrArg some (v.claimedIndex?_answer config.requireExpectations call seen)]
    simpa only [hAnswer, Call.call_racer] using hSerial
  · intro hOrdered
    -- The name of an error is that of the error to any other call.
    let view (v : Verdict) : Option String :=
      errorCode? (v.answer config.requireExpectations (.bare .close) [])
    have hView (call : Call) (seen : List Expectation) (v : Verdict) :
        errorCode? (v.answer config.requireExpectations call seen) = view v :=
      v.errorCode?_answer config.requireExpectations call (.bare .close) seen []
    have hSerial := (run.serial_view hDone view fun v w _ hEq => by
      rw [hEq (hOrdered ▸ contested_of_ordered _)]).2
    have hAnswer := run.answer?_view hDone errorCode? view fun i => hView (calls i)
    rw [answers_dispatch config _ (fun v => some (view v)) fun call seen v =>
      congrArg some (hView call seen v)]
    simpa only [hAnswer, Call.call_racer] using hSerial

/-- Two calls race for one expectation. The first call comes second, and is told that everything
was fulfilled. -/
theorem dispatch_linearizable_two_begins :
    ∃ r : Race 2 (Option Claim),
      Run true (fun _ => (Call.bare .begin).racer {}) (start [{ payload := .begin }])
        [.attempt 1, .attempt 0, .answer 0, .answer 1] r ∧
      (r.stages 0).answer? =
        some (.error (.notExpected "database transaction Begin" true)) ∧
      (∀ e ∈ r.records, e.fulfilled = true) ∧
      afterAll (dispatch {}) [.bare .begin, .bare .begin] [{ payload := .begin }] = r.records := by
  have run : Run true (fun _ : Fin 2 => (Call.bare .begin).racer {}) (start [{ payload := .begin }])
      [.attempt 1, .attempt 0, .answer 0, .answer 1] _ := run_of_foldlM rfl
  obtain ⟨hTold, hSerial⟩ := dispatch_linearizable {} (fun _ => .bare .begin) _ run
  exact ⟨_, run, rfl, hTold 0 _ rfl, (hSerial (by decide)).2.1⟩

end Race

end ScriptedDb
