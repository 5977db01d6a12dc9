import ScriptedDb.Proofs.Capacity
import ScriptedDb.Proofs.Race.Linearization

/-! Where all calls of a race are the same, nothing that a loser has seen can change any more, so no
answer depends on the moment at which it is drawn. -/

namespace ScriptedDb

/-- The expectation that an answer may describe. -/
def Verdict.subject? : Verdict → Option Nat
  | .claimed index _ => some index
  | .outOfOrder index => some index
  | .rejected index _ => some index
  | .exhausted p => p.conversion.map Prod.fst

theorem Attempt.subject?_of_verdict? {attempt : Attempt} {index : Nat} {v : Verdict}
    (h : attempt.verdict? index = some v) : v.subject? = some index := by
  cases attempt <;> simp only [Attempt.verdict?, Option.some.injEq, reduceCtorEq] at h <;>
    subst h <;> rfl

/-- An answer depends on the expectations only through the one that it describes. -/
theorem Verdict.answer_congr (strict : Bool) (call : Call) {records records' : List Expectation}
    {v : Verdict} (hLength : records.length = records'.length)
    (hSubject : ∀ index, v.subject? = some index → records[index]? = records'[index]?) :
    v.answer strict call records = v.answer strict call records' := by
  cases v with
  | claimed => rfl
  | outOfOrder index => simp [answer, describeAt, hSubject index rfl]
  | rejected index => simp [answer, describeAt, hSubject index rfl]
  | exhausted p =>
    cases hConversion : p.conversion with
    | none => simp [answer, hConversion, hLength]
    | some failed =>
      have hSame := hSubject failed.1 (by simp [subject?, hConversion])
      simp [answer, hConversion, describeAt, hSame]

theorem Verdict.eq_of_answer {strict : Bool} {call : Call} {records : List Expectation}
    {v : Verdict} {claim : Claim} (h : v.answer strict call records = .ok (some claim)) :
    v.subject? = some claim.index := by
  have hClaimed := v.claimedIndex?_answer strict call records
  rw [h] at hClaimed
  cases v <;> simp_all [claimed?, claimedIndex?, subject?]

theorem Request.conclude_congr (request : Request) {records records' : List Expectation}
    {dispatched : Except Error (Option Claim)}
    (h : ∀ claim, dispatched = .ok (some claim) →
      describeAt records claim.index = describeAt records' claim.index) :
    request.conclude records dispatched = request.conclude records' dispatched := by
  match dispatched with
  | .error e => cases request <;> rfl
  | .ok none => cases request <;> rfl
  | .ok (some claim) =>
    have hSame := h claim rfl
    cases request <;> simp [conclude, Session.settle, Session.deliverNothing,
      Session.deliverStatement, Session.deliverResult, Session.deliverRows, Session.missing, hSame]

/-- What a request answers depends on the expectations only through the one that it describes. -/
theorem Request.conclude_racer_congr (config : Config) (request : Request)
    {records records' : List Expectation} {v : Verdict}
    (hLength : records.length = records'.length)
    (hSubject : ∀ index, v.subject? = some index → records[index]? = records'[index]?) :
    (request.racer config).conclude records v = (request.racer config).conclude records' v := by
  simp only [Request.racer]
  rw [Verdict.answer_congr config.requireExpectations request.call hLength hSubject]
  refine request.conclude_congr fun claim hClaim => ?_
  simp [describeAt, hSubject _ (Verdict.eq_of_answer hClaim)]

/-- No call like this one can claim what the answer describes. -/
def Verdict.Lasting (call : Call) (records : List Expectation) (v : Verdict) : Prop :=
  ∀ index e, v.subject? = some index → records[index]? = some e → e.takes call = false

theorem Verdict.Lasting.set_fulfil {call : Call} {records : List Expectation} {v : Verdict}
    (h : v.Lasting call records) (index : Nat) (e : Expectation) :
    v.Lasting call (records.set index e.fulfil) := by
  intro j e' hSubject he'
  rw [List.getElem?_set] at he'
  split at he'
  · split at he'
    · obtain rfl := Option.some.inj he'
      exact Expectation.takes_fulfil e call
    · cases he'
  · exact h j e' hSubject he'

/-- A lasting answer stays the same while such calls claim. -/
theorem Verdict.Lasting.conclude_set_fulfil {config : Config} {request : Request}
    {records : List Expectation} {v : Verdict} (h : v.Lasting request.call records) {index : Nat}
    {e : Expectation} (he : records[index]? = some e) (hTakes : e.takes request.call = true) :
    (request.racer config).conclude (records.set index e.fulfil) v =
      (request.racer config).conclude records v := by
  refine request.conclude_racer_congr config (List.length_set ..) fun j hSubject => ?_
  have hNe : index ≠ j := by
    rintro rfl
    rw [h index e hSubject he] at hTakes
    cases hTakes
  rw [List.getElem?_set_ne hNe]

theorem Verdict.Lasting.scan {call : Call} {records : List Expectation} {v : Verdict}
    (h : v.Lasting call records) (ordered : Bool) :
    v.Lasting call (scan ordered call 0 {} records).2 := by
  rcases records_scan ordered call records with hSame | ⟨index, e, -, -, hSet⟩
  · rwa [hSame]
  · rw [hSet]
    exact h.set_fulfil index e

/-- A lasting answer stays the same while copies of the request scan one after another. -/
theorem Verdict.Lasting.conclude_scanAll {config : Config} {request : Request}
    {records : List Expectation} {v : Verdict} (h : v.Lasting request.call records)
    (ordered : Bool) (n : Nat) :
    (request.racer config).conclude
        (scanAll ordered (List.replicate n request.call) records).2 v =
      (request.racer config).conclude records v := by
  induction n generalizing records with
  | zero => rfl
  | succ n ih =>
    simp only [List.replicate_succ, scanAll]
    rw [ih (h.scan ordered)]
    rcases records_scan ordered request.call records with hSame | ⟨index, e, he, hTakes, hSet⟩
    · rw [hSame]
    · rw [hSet, h.conclude_set_fulfil he hTakes]

/-- What a scan finds lasts. -/
theorem lasting_scan (ordered : Bool) (call : Call) (records : List Expectation) :
    (scan ordered call 0 {} records).1.Lasting call (scan ordered call 0 {} records).2 := by
  rcases scan_cases ordered call records with
    ⟨hPasses, hScan⟩ | ⟨index, e, v, he, hPasses, hStop, hVerdict, hScan⟩
  · rw [hScan]
    intro j e hSubject he
    refine Expectation.takes_eq_false_of_stops_eq_false (hPasses e ?_)
    simpa using List.mem_of_getElem? he
  · rw [hScan]
    intro j e' hSubject he'
    obtain rfl : index = j := by
      simpa [Attempt.subject?_of_verdict? hVerdict] using hSubject
    obtain ⟨hLt, -⟩ := List.getElem?_eq_some_iff.mp he
    simp only [List.getElem?_set_self hLt, Option.some.injEq] at he'
    subst he'
    rw [Expectation.tryClaim_snd]
    split
    · exact Expectation.takes_fulfil e call
    · simp_all

theorem afterAll_serve_replicate (request : Request) (n : Nat) (s : Session) :
    afterAll Session.serve (List.replicate n request) s =
      { s with records :=
          (scanAll s.config.ordered (List.replicate n request.call) s.records).2 } := by
  induction n generalizing s with
  | zero => rfl
  | succ n ih =>
    rw [List.replicate_succ, afterAll_cons, ih, Session.serve_state]
    rfl

/-- Where a request is made again and again, every answer can as well be drawn at the end. -/
theorem answers_serve_replicate (request : Request) (n : Nat) (s : Session) :
    answers Session.serve (List.replicate n request) s =
      (scanAll s.config.ordered (List.replicate n request.call) s.records).1.map
        ((request.racer s.config).conclude
          (scanAll s.config.ordered (List.replicate n request.call) s.records).2) := by
  induction n generalizing s with
  | zero => rfl
  | succ n ih =>
    have hFirst : (s.serve request).answer = (request.racer s.config).conclude
        (scan s.config.ordered request.call 0 {} s.records).2
        (scan s.config.ordered request.call 0 {} s.records).1 := s.serve_answer request
    have hLasting := lasting_scan s.config.ordered request.call s.records
    have hRest := ih (s.serve request).state
    rw [Session.serve_state] at hRest
    simp only [List.replicate_succ, answers, history_cons, List.map_cons, scanAll]
    rw [hFirst, hLasting.conclude_scanAll, Session.serve_state]
    exact congrArg _ hRest

namespace Race

variable {n : Nat} {ordered : Bool} {config : Config} {request : Request}
  {records : List Expectation} {turns : List (Turn n)} {r : Race n Response} {i : Fin n}

/-- The verdict of a copy lasts, from the end of its scan on. -/
theorem Run.lasting
    (run : Run ordered (fun _ => request.racer config) (start records) turns r) {v : Verdict}
    (hv : (r.stages i).verdict? = some v) : v.Lasting request.call r.records := by
  induction run with
  | zero =>
    intro index e _ he
    obtain ⟨hLt, -⟩ := List.getElem?_eq_some_iff.mp he
    have hSome : 0 < records.length := Nat.zero_lt_of_lt hLt
    simp [start, Stage.reach, hSome, Stage.verdict?] at hv
  | @succ turns turn r r' prior last ih =>
    by_cases hTurn : turn = .attempt i
    · subst hTurn
      rcases prior.attempt_cases last with ⟨hNone, -⟩ | ⟨w, u, hw, hScan, -, hEq⟩
      · simp [hNone] at hv
      · obtain rfl : w = v := Option.some.inj (hw.symm.trans hv)
        have hLasting := lasting_scan ordered request.call r.records
        rw [Request.call_racer] at hScan
        rwa [hScan, ← hEq (contested_of_same ordered _)] at hLasting
    · have hLasting := ih (by rwa [← verdict?_step last hTurn])
      rcases records_step last with hSame | ⟨j, index, e, he, hTakes, hSet⟩
      · rwa [hSame]
      · rw [hSet]
        exact hLasting.set_fulfil index e

/-- The answer of a copy is the one that it would draw now. -/
theorem Run.answer_now
    (run : Run ordered (fun _ => request.racer config) (start records) turns r) {v : Verdict}
    {answer : Except Error Response} (hStage : r.stages i = .answered v answer) :
    answer = (request.racer config).conclude r.records v := by
  induction run with
  | zero =>
    simp only [start, Stage.reach] at hStage
    split at hStage <;> cases hStage
  | @succ turns turn r r' prior last ih =>
    rcases answered_step last hStage with ⟨rfl, rfl⟩ | hBefore
    · obtain ⟨w, -, rfl⟩ := step_answer_cases last
      rfl
    · have hLasting := prior.lasting (i := i) (v := v) (by rw [hBefore]; rfl)
      rcases records_step last with hSame | ⟨j, index, e, he, hTakes, hSet⟩
      · rw [hSame]
        exact ih hBefore
      · rw [hSet, hLasting.conclude_set_fulfil he hTakes]
        exact ih hBefore

theorem length_serialOrder (turns : List (Turn n)) : (serialOrder turns).length = n := by
  rw [(serialOrder_perm turns).length_eq, List.length_finRange]

/-- At the end of a race of copies, what is seen of their verdicts is, up to its order, what is seen
of the verdicts of as many scans one after another. -/
theorem Run.view_perm {γ : Type}
    (run : Run ordered (fun _ => request.racer config) (start records) turns r) (hDone : r.Done)
    (view : Verdict → γ) :
    (scanAll ordered (List.replicate n request.call) records).2 = r.records ∧
      ((List.finRange n).filterMap fun i => (r.stages i).verdict?.map view).Perm
        ((scanAll ordered (List.replicate n request.call) records).1.map view) := by
  have hView := run.serial_view hDone view fun v w _ hEq => by
    rw [hEq (contested_of_same ordered _)]
  have hCalls : ((serialOrder turns).map fun _ => (request.racer config).call) =
      List.replicate n request.call := by
    rw [List.map_const', length_serialOrder, Request.call_racer]
  rw [hCalls] at hView
  refine ⟨hView.1, ((serialOrder_perm turns).symm.filterMap _).trans (.of_eq ?_)⟩
  have hSeen := congrArg (List.filterMap id) hView.2
  rwa [List.filterMap_map, List.filterMap_map, Function.id_comp, Function.id_comp,
    List.filterMap_eq_map'] at hSeen

/-- A race of copies of one request does not depend on scheduling. For every session, every mode
and every interleaving, the answers, messages included, are up to their order those of the same
requests made one after another, and the expectations end the same. As many copies win an
expectation as can. -/
theorem identical_requests_race (s : Session) (request : Request) {turns : List (Turn n)}
    {r : Race n Response}
    (run : Run s.config.ordered (fun _ => request.racer s.config) (start s.records) turns r)
    (hDone : r.Done) :
    r.results.Perm (answers Session.serve (List.replicate n request) s) ∧
      afterAll Session.serve (List.replicate n request) s = { s with records := r.records } ∧
      r.wins = min n (capacity s.config.ordered request.call s.records) := by
  refine ⟨?_, ?_, ?_⟩
  · obtain ⟨hRecords, hPerm⟩ :=
      run.view_perm hDone ((request.racer s.config).conclude r.records)
    have hAnswer (i : Fin n) : (r.stages i).answer? =
        (r.stages i).verdict?.map ((request.racer s.config).conclude r.records) := by
      have hAnswered := hDone i
      cases hStage : r.stages i with
      | scanning | stopped => simp [hStage, Stage.answer?] at hAnswered
      | answered v answer =>
        rw [run.answer_now hStage]
        rfl
    rw [answers_serve_replicate, hRecords]
    simpa only [results, hAnswer] using hPerm
  · rw [afterAll_serve_replicate, (run.view_perm hDone id).1]
  · have hPerm := (run.view_perm hDone fun v => v.claimed?.isSome).2
    have hWins := hPerm.countP_eq id
    rw [List.countP_map, Function.id_comp, countP_scanAll_replicate, List.countP_filterMap]
      at hWins
    rw [← hWins]
    refine List.countP_congr fun i _ => ?_
    cases hVerdict : (r.stages i).verdict? <;> simp [Stage.claimed?, hVerdict]

/-- Two copies race for one expectation. The first copy attempts it second, and loses. -/
theorem identical_requests_race_two_begins :
    ∃ r : Race 2 Response,
      Run true (fun _ => Request.begin.racer {}) (start [{ payload := .begin }])
        [.attempt 1, .attempt 0, .answer 0, .answer 1] r ∧
      r.results = [.error (.notExpected "database transaction Begin" true), .ok .done] ∧
      r.results.Perm (answers Session.serve [.begin, .begin]
        { dsn := "", records := [{ payload := .begin }] }) ∧
      r.wins = 1 := by
  have run : Run true (fun _ : Fin 2 => Request.begin.racer {}) (start [{ payload := .begin }])
      [.attempt 1, .attempt 0, .answer 0, .answer 1] _ := run_of_foldlM rfl
  obtain ⟨hPerm, -, hWins⟩ := identical_requests_race
    { dsn := "", records := [{ payload := .begin }] } .begin run (by decide)
  exact ⟨_, run, rfl, hPerm, hWins⟩

end Race

end ScriptedDb
