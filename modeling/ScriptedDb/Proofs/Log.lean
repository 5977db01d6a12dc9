import ScriptedDb.Proofs.Dispatch

namespace ScriptedDb

variable {call : Call} {records : List Expectation} {index : Nat} {e : Expectation}

def Tells (level : Level) (events : List Event) : Prop :=
  ∃ event, events = [event] ∧ event.level = level

/-- What the log is told when the expectation at an index is next and refuses the call. -/
def Expectation.refusalEvent (e : Expectation) (call : Call) (index : Nat) : Event :=
  match e.attempt call with
  | .rejected rejection => .headRejected call.kind rejection
  | _ => .outOfOrder call.kind e.kind index

@[simp] theorem Expectation.level_refusalEvent (e : Expectation) (call : Call) (index : Nat) :
    (e.refusalEvent call index).level = .debug := by
  unfold refusalEvent
  split <;> rfl

/-- A refusal is told with what was amiss. -/
theorem events_of_first_refuses (config : Config)
    (hFirst : First (Expectation.stops config.ordered call) records index e)
    (hTakes : e.takes call = false) :
    (dispatch config call records).events = [e.refusalEvent call index] := by
  obtain ⟨v, hVerdict, hScan⟩ := scan_of_stop hFirst.before hFirst.found hFirst.holds
  rw [set_tryClaim hFirst.found, hTakes] at hScan
  simp only [dispatch, hScan]
  unfold Expectation.refusalEvent
  cases hAttempt : e.attempt call with
  | claimed outcome =>
    rw [Expectation.takes_of_attempt hAttempt] at hTakes
    cases hTakes
  | alreadyFulfilled => simp [hAttempt, Attempt.verdict?] at hVerdict
  | wrongKind | rejected =>
    simp only [hAttempt, Attempt.verdict?, Option.some.injEq] at hVerdict
    subst hVerdict
    simp [Verdict.events, hFirst.found]

/-- What the log is told of a call that nothing has stopped: strictly that it was not expected, unless a
comparison failed; leniently how much is pending, if anything is. -/
def unmatchedEvents (strict : Bool) (call : Call) (records : List Expectation) : List Event :=
  if strict then
    if records.any fun e => (e.incomparable? call).isSome then []
    else [.unmatched call.kind records.length (records.countP Expectation.fulfilled)]
  else
    let pending := records.countP fun e => !e.fulfilled
    if 0 < pending then [.tolerated call.kind pending] else []

theorem countP_fulfilled_add_pending (records : List Expectation) :
    records.countP Expectation.fulfilled + records.countP (fun e => !e.fulfilled) =
      records.length := by
  have hSplit := List.length_eq_countP_add_countP Expectation.fulfilled (l := records)
  simpa using hSplit.symm

/-- There is a first failed comparison exactly if there is one at all. -/
theorem isSome_findSome?_incomparable? (call : Call) (records : List Expectation) :
    (records.findSome? fun e =>
        (e.incomparable? call).map fun failure => (e.describe, failure)).isSome =
      records.any fun e => (e.incomparable? call).isSome := by
  rw [Bool.eq_iff_iff, List.findSome?_isSome_iff, List.any_eq_true]
  simp

/-- A scan that ran to the end remembers a failed comparison exactly if there was one. -/
theorem isSome_conversion_passAll (call : Call) (records : List Expectation) :
    (({} : Progress).passAll call 0 records).conversion.isSome =
      records.any fun e => (e.incomparable? call).isSome := by
  have hFailed := Progress.conversion_passAll {} call (List.drop_zero (l := records))
  simp only [Option.map_none, Option.none_or] at hFailed
  rw [← isSome_findSome?_incomparable?, ← hFailed, Option.isSome_map]

theorem Verdict.events_exhausted (strict : Bool) (call : Call) (records : List Expectation) :
    (Verdict.exhausted (({} : Progress).passAll call 0 records)).events strict call records =
      unmatchedEvents strict call records := by
  have hCount := Progress.fulfilled_passAll {} call 0 records
  have hFailed := isSome_conversion_passAll call records
  have hPending := countP_fulfilled_add_pending records
  rw [Nat.zero_add] at hCount
  cases strict with
  | false =>
    have hLeft : records.length - records.countP Expectation.fulfilled =
        records.countP fun e => !e.fulfilled := by omega
    have hSome : records.countP Expectation.fulfilled < records.length ↔
        0 < records.countP fun e => !e.fulfilled := by omega
    simp only [events, unmatchedEvents, hCount, hLeft, hSome, Bool.false_eq_true, if_false]
  | true =>
    simp only [events, unmatchedEvents, ↓reduceIte, ← hFailed, hCount]
    cases (({} : Progress).passAll call 0 records).conversion <;> rfl

theorem events_of_none (config : Config)
    (h : ∀ e ∈ records, e.stops config.ordered call = false) :
    (dispatch config call records).events =
      unmatchedEvents config.requireExpectations call records := by
  have hPasses : Passes config.ordered call records records.length :=
    fun e he => h e (List.mem_of_mem_take he)
  simp only [dispatch, scan_of_passes hPasses]
  exact Verdict.events_exhausted _ call records

/-- What a strict call is told that nothing has stopped, and what the log is told of it. Only of a
failed comparison the log is told nothing. -/
theorem unmatched_strict_tells (call : Call) (records : List Expectation) :
    ∃ e, unmatched true call records = .error e ∧
      ((e.code = "argument_conversion" ∧ unmatchedEvents true call records = []) ∨
        (e.code = "not_expected" ∧ Tells .debug (unmatchedEvents true call records))) := by
  simp only [unmatched, unmatchedEvents, ← isSome_findSome?_incomparable?, ↓reduceIte]
  cases records.findSome? fun e => (e.incomparable? call).map fun failure => (e.describe, failure) with
  | some failed => exact ⟨_, rfl, .inl ⟨rfl, rfl⟩⟩
  | none => exact ⟨_, rfl, .inr ⟨rfl, _, rfl, rfl⟩⟩

/-- The log is told of every decision once, and of nothing else: a claim by its index, a call that fails,
and, of a call that is tolerated, how many expectations are pending if any are. The one exception are
calls that an unordered dispatch gives up for a failed comparison: of these the log is told nothing. -/
theorem dispatch_tells_once (config : Config) (call : Call) (records : List Expectation) :
    (∀ claim, (dispatch config call records).answer = .ok (some claim) →
      Tells .trace (dispatch config call records).events ∧
        (dispatch config call records).events = [.claimed call.kind claim.index]) ∧
    (∀ e, (dispatch config call records).answer = .error e →
      if config.ordered = false ∧ e.code = "argument_conversion" then
        (dispatch config call records).events = []
      else Tells .debug (dispatch config call records).events) ∧
    ((dispatch config call records).answer = .ok none →
      let pending := records.countP fun e => !e.fulfilled
      if 0 < pending then
        Tells .warn (dispatch config call records).events ∧
          (dispatch config call records).events = [.tolerated call.kind pending]
      else (dispatch config call records).events = []) := by
  rcases exists_first_or_forall (Expectation.stops config.ordered call) records with
    ⟨index, e, hFirst⟩ | hNone
  · cases hTakes : e.takes call with
    | true =>
      rw [dispatch_of_takes hFirst.before hFirst.found hTakes]
      refine ⟨?_, fun _ h => absurd h (by simp), fun h => absurd h (by simp)⟩
      rintro claim ⟨⟩
      exact ⟨⟨_, rfl, rfl⟩, rfl⟩
    | false =>
      -- What stops an unordered scan also takes the call, so this scan is ordered.
      have hOrdered : config.ordered = true := by
        cases hOrder : config.ordered with
        | true => rfl
        | false =>
          have hStops := hFirst.holds
          rw [hOrder] at hStops
          exact absurd hStops (by simp [Expectation.stops, hTakes])
      have hEvents := events_of_first_refuses config hFirst hTakes
      rw [(dispatch_of_first_refuses config hFirst hTakes).1]
      refine ⟨fun _ h => absurd h (by simp), fun error _ => ?_, fun h => absurd h (by simp)⟩
      rw [if_neg (by simp [hOrdered])]
      exact ⟨_, hEvents, e.level_refusalEvent call index⟩
  · rw [(dispatch_of_none config hNone).1, events_of_none config hNone]
    cases hStrict : config.requireExpectations with
    | false =>
      refine ⟨fun _ h => absurd h (by simp [unmatched]), fun _ h => absurd h (by simp [unmatched]),
        fun _ => ?_⟩
      simp only [unmatchedEvents, Bool.false_eq_true, if_false]
      split
      · exact ⟨⟨_, rfl, rfl⟩, rfl⟩
      · rfl
    | true =>
      obtain ⟨error, hError, hTold⟩ := unmatched_strict_tells call records
      rw [hError]
      refine ⟨fun _ h => absurd h (by simp), ?_, fun h => absurd h (by simp)⟩
      rintro _ ⟨⟩
      rcases hTold with ⟨hCode, hSilent⟩ | ⟨hCode, hTells⟩
      · -- In order, nothing is left to compare with when nothing stops the scan.
        have hUnordered : config.ordered = false := by
          cases hOrder : config.ordered with
          | false => rfl
          | true =>
            have hAll : ∀ e ∈ records, e.fulfilled = true := by
              simpa [hOrder, Expectation.stops] using hNone
            have hDone := (dispatch_of_all_fulfilled config call hAll).1
            rw [(dispatch_of_none config hNone).1, hStrict, hError, if_pos rfl] at hDone
            cases hDone
            exact absurd hCode (by simp [Error.code])
        rw [if_pos ⟨hUnordered, hCode⟩]
        exact hSilent
      · rw [if_neg (by simp [hCode])]
        exact hTells

/-- A claim, a refusal in order for a failed comparison, and a call that is tolerated with one of two
expectations pending. -/
theorem dispatch_tells_once_exec :
    ∃ (call : Call) (failing : Expectation) (failure : Incomparable),
      call.args = [.blob [0xFF]] ∧ failing.incomparable? call = some failure ∧
      (dispatch {} (.bare .begin) [{ payload := .begin }]).events = [.claimed .begin 0] ∧
      Tells .debug (dispatch {} call [failing]).events ∧
      (dispatch ⟨false, false⟩ (.bare .commit)
        [{ payload := .begin, fulfilled := true }, { payload := .rollback }]).events =
          [.tolerated .commit 1] := by
  let call : Call := { kind := .exec, args := [.blob [0xFF]] }
  let failing : Expectation :=
    { payload := .exec ⟨"", .empty⟩ (some [.value (.text "bob")]) none }
  obtain ⟨hClaimed, -, -⟩ := dispatch_tells_once {} (.bare .begin) [{ payload := .begin }]
  obtain ⟨-, hRefused, -⟩ := dispatch_tells_once {} call [failing]
  obtain ⟨-, -, hTolerated⟩ := dispatch_tells_once ⟨false, false⟩ (.bare .commit)
    [{ payload := .begin, fulfilled := true }, { payload := .rollback }]
  exact ⟨call, failing, _, rfl, rfl, (hClaimed _ rfl).2, hRefused _ rfl, (hTolerated rfl).2⟩

/-- The log is told nothing of an unordered strict call that fails because its argument cannot be
compared with a declared one. -/
theorem unordered_failed_comparison_untold :
    ∃ (call : Call) (failing : Expectation) (e : Error),
      (dispatch .concurrent call [failing]).answer = .error e ∧ e.code = "argument_conversion" ∧
      ¬Tells .debug (dispatch .concurrent call [failing]).events ∧
      (dispatch .concurrent call [failing]).events = [] := by
  let call : Call := { kind := .exec, args := [.blob [0xFF]] }
  let failing : Expectation :=
    { payload := .exec ⟨"", .empty⟩ (some [.value (.text "bob")]) none }
  refine ⟨call, failing, _, rfl, rfl, ?_, rfl⟩
  rintro ⟨event, hEvents, -⟩
  cases hEvents

end ScriptedDb
