import ScriptedDb.Proofs.Session.Serve

/-! Which expectation decides a call, and which of its tests names the error. -/

namespace ScriptedDb

variable {call : Call} {records : List Expectation} {index : Nat} {e : Expectation}

/-- An outcome holds what an expectation declares: its fault, and besides it only the result of an Exec,
the rows of a Query, and the fault that closing the statement of a Prepare raises. -/
structure Expectation.HandsOut (e : Expectation) (outcome : Outcome) : Prop where
  error : outcome.error = e.error
  result : ∀ result, outcome.result = some result ↔
    ∃ pattern args, e.payload = .exec pattern args (some result)
  rows : ∀ rows, outcome.rows = some rows ↔
    ∃ pattern args, e.payload = .query pattern args (some rows)
  closeError : ∀ fault, outcome.closeError = some fault ↔
    ∃ pattern mustBeClosed closed, e.payload = .prepare pattern (some fault) mustBeClosed closed

theorem Expectation.handsOut_outcome (e : Expectation) : e.HandsOut e.outcome := by
  obtain ⟨payload, fulfilled, error⟩ := e
  cases payload <;> constructor <;> simp [Expectation.outcome]

theorem handsOut_of_first_takes (config : Config)
    (hFirst : First (Expectation.stops config.ordered call) records index e)
    (hTakes : e.takes call = true) :
    ∃ outcome, e.HandsOut outcome ∧
      (dispatch config call records).answer = .ok (some ⟨index, outcome⟩) ∧
      (dispatch config call records).state = records.set index e.fulfil :=
  ⟨e.outcome, e.handsOut_outcome, dispatch_of_first_takes config hFirst hTakes⟩

/-- What an unordered scan remembers is the first failed comparison. -/
theorem First.findSome?_incomparable? {failure : Incomparable}
    (hFirst : First (fun e => (e.incomparable? call).isSome) records index e)
    (hFailure : e.incomparable? call = some failure) :
    (records.findSome? fun e => (e.incomparable? call).map fun failure => (e.describe, failure)) =
      some (e.describe, failure) := by
  have hBefore : ((records.take index).findSome? fun e =>
      (e.incomparable? call).map fun failure => (e.describe, failure)) = none := by
    rw [List.findSome?_eq_none_iff]
    intro e' he'
    simpa using hFirst.before e' he'
  rw [hFirst.eq_append, List.findSome?_append, hBefore]
  simp [hFailure]

/-- An unordered dispatch claims the first expectation that takes the call, hands out what it declares,
and marks that one only. Where none takes the call, nothing changes. A lenient dispatch then
tolerates the call. A strict one fails: with the first failed comparison, if there was any, and
otherwise with the answer whether all expectations are fulfilled. -/
theorem unordered_dispatch_claims_first (strict : Bool) (call : Call)
    (records : List Expectation) :
    (∀ index e, First (·.takes call) records index e →
      ∃ outcome, e.HandsOut outcome ∧
        (dispatch ⟨false, strict⟩ call records).answer = .ok (some ⟨index, outcome⟩) ∧
        (dispatch ⟨false, strict⟩ call records).state = records.set index e.fulfil) ∧
    ((∀ e ∈ records, e.takes call = false) →
      (dispatch ⟨false, strict⟩ call records).state = records ∧
      (strict = false → (dispatch ⟨false, strict⟩ call records).answer = .ok none) ∧
      (strict = true →
        (∀ index e failure, First (fun e => (e.incomparable? call).isSome) records index e →
          e.incomparable? call = some failure →
          (dispatch ⟨false, strict⟩ call records).answer =
            .error (.argumentConversion call.label call.query (Value.renderList call.args)
              e.describe failure)) ∧
        ((∀ e ∈ records, e.incomparable? call = none) →
          (dispatch ⟨false, strict⟩ call records).answer =
            .error (.notExpected call.describe (records.all Expectation.fulfilled))))) := by
  refine ⟨?_, ?_⟩
  · intro index e hFirst
    exact handsOut_of_first_takes ⟨false, strict⟩ hFirst hFirst.holds
  · intro hNone
    obtain ⟨hAnswer, hState⟩ := dispatch_of_none ⟨false, strict⟩ hNone
    rw [hAnswer]
    refine ⟨hState, ?_, ?_⟩
    · rintro rfl
      rfl
    · rintro rfl
      refine ⟨?_, ?_⟩
      · intro index e failure hFirst hFailure
        simp only [unmatched, ↓reduceIte, hFirst.findSome?_incomparable? hFailure]
        rfl
      · intro hComparable
        have hNoFailure : (records.findSome? fun e =>
            (e.incomparable? call).map fun failure => (e.describe, failure)) = none := by
          rw [List.findSome?_eq_none_iff]
          intro e he
          rw [hComparable e he, Option.map_none]
        simp only [unmatched, ↓reduceIte, hNoFailure]

/-- One Exec cannot compare the argument, the others before the last declare no arguments, another one,
another query, or are fulfilled. They keep the last from being claimed no more than a Begin does, and
it hands out its fault and its counts. Where it is not declared, the comparison is reported. -/
theorem unordered_dispatch_claims_first_exec :
    ∃ (call : Call) (records : List Expectation) (e : Expectation) (failure : Incomparable),
      call.args = [.blob [0xFF]] ∧
      records.map (·.payload.args?) =
        [some [.value (.text "bob")], none, some [], some [.value (.blob [0])], none, none] ∧
      records.map Expectation.fulfilled = [false, false, false, false, false, true] ∧
      (∃ outcome, outcome.error = some ⟨3, .message "disk full"⟩ ∧
        outcome.result = some (.counts 7 1) ∧
        (dispatch .concurrent call (records ++ [e])).answer = .ok (some ⟨6, outcome⟩)) ∧
      (dispatch .concurrent call records).answer =
        .error (.argumentConversion "exec" "" "[x'ff']"
          "ExpectedExec => expecting Exec matching '' with args [\"bob\"]" failure) := by
  let call : Call := { kind := .exec, args := [.blob [0xFF]] }
  let failing : Expectation :=
    { payload := .exec ⟨"", .empty⟩ (some [.value (.text "bob")]) none }
  let insert : QueryPattern := ⟨"INSERT", .literal "INSERT".toList⟩
  let records : List Expectation :=
    [failing,
      { payload := .begin },
      { payload := .exec ⟨"", .empty⟩ (some []) none },
      { payload := .exec ⟨"", .empty⟩ (some [.value (.blob [0])]) none },
      { payload := .exec insert none none },
      { payload := .exec ⟨"", .empty⟩ none none, fulfilled := true }]
  let e : Expectation :=
    { payload := .exec ⟨"", .empty⟩ none (some (.counts 7 1))
      error := some ⟨3, .message "disk full"⟩ }
  have hNone : ∀ e' ∈ records, e'.takes call = false := by
    intro e' he'
    simp only [records, List.mem_cons, List.not_mem_nil, or_false] at he'
    rcases he' with rfl | rfl | rfl | rfl | rfl | rfl <;> cbv
  have hTaken : First (·.takes call) (records ++ [e]) 6 e := ⟨rfl, rfl, hNone⟩
  have hFailed : First (fun e' => (e'.incomparable? call).isSome) records 0 failing := by
    refine ⟨rfl, rfl, ?_⟩
    intro e' he'
    simp at he'
  obtain ⟨hClaim, -⟩ := unordered_dispatch_claims_first true call (records ++ [e])
  obtain ⟨-, hMiss⟩ := unordered_dispatch_claims_first true call records
  obtain ⟨outcome, hOutcome, hAnswer, -⟩ := hClaim 6 e hTaken
  have hResult : outcome.result = some (.counts 7 1) := (hOutcome.result _).mpr ⟨_, _, rfl⟩
  exact ⟨call, records, e, _, rfl, rfl, rfl, ⟨outcome, hOutcome.error, hResult, hAnswer⟩,
    ((hMiss hNone).2.2 rfl).1 0 failing _ hFailed rfl⟩

/-- The reply fails with an error and leaves the expectations as they are. -/
def Refuses (records : List Expectation) (error : Error)
    (reply : Reply (List Expectation) (Option Claim)) : Prop :=
  reply.answer = .error error ∧ reply.state = records

/-- The reply to a call where the expectation at `index` is next: it refuses the call for the first of
kind, query, arguments and their comparison that is amiss, or is claimed. -/
structure DecidedBy (call : Call) (records : List Expectation) (index : Nat) (e : Expectation)
    (reply : Reply (List Expectation) (Option Claim)) : Prop where
  kind : e.kind ≠ call.kind →
    Refuses records (.unexpectedCall call.describe e.describe) reply
  query : ∀ pattern, e.kind = call.kind → e.payload.pattern? = some pattern →
    pattern.isMatch call.query = false →
    Refuses records (.queryMismatch call.label call.query pattern.text) reply
  arguments : e.recognises call = true →
    Argument.acceptsAll e.payload.args? call.args = .ok false →
    Refuses records (.argumentMismatch call.label call.query (Value.renderList call.args)
      (e.payload.args?.elim "<any>" Argument.renderList)) reply
  comparison : ∀ failure, e.recognises call = true →
    Argument.acceptsAll e.payload.args? call.args = .error failure →
    Refuses records (.argumentConversion call.label call.query (Value.renderList call.args)
      e.describe failure) reply
  claim : e.recognises call = true → Argument.acceptsAll e.payload.args? call.args = .ok true →
    ∃ outcome, e.HandsOut outcome ∧
      reply.answer = .ok (some ⟨index, outcome⟩) ∧ reply.state = records.set index e.fulfil

/-- Where an expectation is next that does not fit the call, it refuses the call. -/
theorem refuses_of_next (strict : Bool)
    (hNext : First (fun e => !e.fulfilled) records index e) (hFits : e.fits call = false) :
    Refuses records (e.refusal call) (dispatch ⟨true, strict⟩ call records) := by
  have hTakes : e.takes call = false := by simp [Expectation.takes, hFits]
  exact dispatch_of_first_refuses ⟨true, strict⟩ hNext hTakes

theorem refuses_of_rejection? (strict : Bool) {rejection : Rejection}
    (hNext : First (fun e => !e.fulfilled) records index e) (hKind : e.kind = call.kind)
    (hRejection : e.rejection? call = some rejection) :
    Refuses records (rejection.error call e.describe) (dispatch ⟨true, strict⟩ call records) := by
  have hPending : e.fulfilled = false := by simpa using hNext.holds
  have hFits : e.fits call = false := by
    rw [Bool.eq_false_iff, ne_eq, ← Expectation.rejection?_eq_none_iff hKind, hRejection]
    exact Option.some_ne_none rejection
  rw [← Expectation.refusal_of_rejection? hPending hKind hRejection]
  exact refuses_of_next strict hNext hFits

/-- The first pending expectation decides a call in order, whatever the strictness. -/
theorem decidedBy_next (strict : Bool) (hNext : First (fun e => !e.fulfilled) records index e) :
    DecidedBy call records index e (dispatch ⟨true, strict⟩ call records) := by
  have hPending : e.fulfilled = false := by simpa using hNext.holds
  refine ⟨?_, ?_, ?_, ?_, ?_⟩
  · intro hKind
    rw [← Expectation.refusal_of_kind_ne hPending hKind]
    exact refuses_of_next strict hNext (by simp [Expectation.fits, hKind])
  · intro pattern hKind hPattern hMatch
    exact refuses_of_rejection? strict hNext hKind
      (Expectation.rejection?_of_not_isMatch hPattern hMatch)
  · intro hRecognises hArgs
    have hRejection : e.rejection? call =
        some (.arguments (e.payload.args?.elim "<any>" Argument.renderList)) := by
      rw [Expectation.rejection?_of_recognises hRecognises,
        Expectation.rejection?.rejectedArguments?, hArgs]
    exact refuses_of_rejection? strict hNext (Expectation.kind_of_recognises hRecognises) hRejection
  · intro failure hRecognises hArgs
    have hRejection : e.rejection? call = some (.conversion failure) := by
      rw [Expectation.rejection?_of_recognises hRecognises,
        Expectation.rejection?.rejectedArguments?, hArgs]
    exact refuses_of_rejection? strict hNext (Expectation.kind_of_recognises hRecognises) hRejection
  · intro hRecognises hArgs
    have hTakes : e.takes call = true := by
      simp [Expectation.takes, hPending, Expectation.fits_of_recognises hRecognises hArgs]
    exact handsOut_of_first_takes ⟨true, strict⟩ hNext hTakes

/-- An ordered dispatch is decided by the first pending expectation, in a strict and in a lenient
session alike. Where nothing is pending, a strict call is told that everything was fulfilled and a
lenient one is tolerated. Nothing changes without a claim, and a call is never told that it was not
expected while something is pending. -/
theorem ordered_dispatch_decided_by_next (strict : Bool) (call : Call)
    (records : List Expectation) :
    ((∀ e ∈ records, e.fulfilled = true) →
      (dispatch ⟨true, strict⟩ call records).answer =
          (if strict then .error (.notExpected call.describe true) else .ok none) ∧
        (dispatch ⟨true, strict⟩ call records).state = records) ∧
    (∀ index e, First (fun e => !e.fulfilled) records index e →
      DecidedBy call records index e (dispatch ⟨true, strict⟩ call records)) ∧
    ((∀ claim, (dispatch ⟨true, strict⟩ call records).answer ≠ .ok (some claim)) →
      (dispatch ⟨true, strict⟩ call records).state = records) ∧
    ∀ text, (dispatch ⟨true, strict⟩ call records).answer ≠ .error (.notExpected text false) := by
  refine ⟨dispatch_of_all_fulfilled ⟨true, strict⟩ call, fun _ _ => decidedBy_next strict, ?_, ?_⟩
  · intro hMiss
    rcases dispatch_cases ⟨true, strict⟩ call records with
      ⟨index, e, -, -, -, hAnswer, -⟩ | ⟨-, -, hState⟩
    · exact absurd hAnswer (hMiss _)
    · exact hState
  · intro text
    rcases exists_first_or_forall (fun e => !e.fulfilled) records with
      ⟨index, e, hNext⟩ | hAll
    · cases hFits : e.fits call with
      | false =>
        rw [(refuses_of_next strict hNext hFits).1]
        intro h
        exact e.refusal_ne_notExpected text false (Except.error.inj h)
      | true =>
        have hTakes : e.takes call = true := by
          simpa [Expectation.takes, hFits] using hNext.holds
        rw [(dispatch_of_first_takes ⟨true, strict⟩ hNext hTakes).1]
        simp
    · have hDone : ∀ e ∈ records, e.fulfilled = true := by simpa using hAll
      rw [(dispatch_of_all_fulfilled ⟨true, strict⟩ call hDone).1]
      cases strict <;> simp

/-- Five calls where a Query is next, in a lenient session: one of another kind, one whose query and
arguments are both amiss, one with another argument, one with an argument that cannot be compared, and
one that fits and is handed the declared rows and fault. -/
theorem ordered_dispatch_decided_by_next_query :
    ∃ (records : List Expectation) (next : Expectation) (rows : Rows) (failure : Incomparable),
      records.map (·.payload.args?) = [none, some [.value (.text "bob")], none] ∧
      next.describe = "ExpectedQuery => expecting Query matching 'SELECT' with args [\"bob\"]" ++
        ", returning 1 row(s) of [\"id\"], failing with error 'disk full'" ∧
      (dispatch ⟨true, false⟩ (.bare .commit) records).answer =
        .error (.unexpectedCall "commit transaction" next.describe) ∧
      (dispatch ⟨true, false⟩ ⟨.query, "", [.blob [0xFF]]⟩ records).answer =
        .error (.queryMismatch "query" "" "SELECT") ∧
      (dispatch ⟨true, false⟩ ⟨.query, "SELECT", [.text "eve"]⟩ records).answer =
        .error (.argumentMismatch "query" "SELECT" "[\"eve\"]" "[\"bob\"]") ∧
      (dispatch ⟨true, false⟩ ⟨.query, "SELECT", [.blob [0xFF]]⟩ records).answer =
        .error (.argumentConversion "query" "SELECT" "[x'ff']" next.describe failure) ∧
      (dispatch ⟨true, false⟩ ⟨.query, "SELECT", [.blob [0xFF]]⟩ records).state = records ∧
      ∃ outcome, outcome.error = some ⟨3, .message "disk full"⟩ ∧ outcome.rows = some rows ∧
        (dispatch ⟨true, false⟩ ⟨.query, "SELECT", [.text "bob"]⟩ records).answer =
          .ok (some ⟨1, outcome⟩) ∧
        (dispatch ⟨true, false⟩ ⟨.query, "SELECT", [.text "bob"]⟩ records).state =
          records.set 1 next.fulfil := by
  let select : QueryPattern := ⟨"SELECT", .literal "SELECT".toList⟩
  let rows : Rows := { columns := ["id"], rows := [⟨[.integer 1]⟩] }
  let next : Expectation :=
    { payload := .query select (some [.value (.text "bob")]) (some rows)
      error := some ⟨3, .message "disk full"⟩ }
  let records : List Expectation :=
    [{ payload := .begin, fulfilled := true }, next, { payload := .query ⟨"", .empty⟩ none none }]
  have hNext : First (fun e => !e.fulfilled) records 1 next := by
    refine ⟨rfl, rfl, ?_⟩
    intro e he
    simp only [records, List.take_succ_cons, List.take_zero, List.mem_cons, List.not_mem_nil,
      or_false] at he
    rw [he]
    rfl
  have hDecided (call : Call) :
      DecidedBy call records 1 next (dispatch ⟨true, false⟩ call records) :=
    (ordered_dispatch_decided_by_next false call records).2.1 1 next hNext
  have hDescription : next.describe =
      "ExpectedQuery => expecting Query matching 'SELECT' with args [\"bob\"]" ++
        ", returning 1 row(s) of [\"id\"], failing with error 'disk full'" := by decide +kernel
  have hMatch : select.isMatch "" = false := by cbv
  have hRecognises (args : List Value) : next.recognises ⟨.query, "SELECT", args⟩ = true := by cbv
  obtain ⟨hKind, -⟩ := (hDecided (.bare .commit)).kind (by decide)
  obtain ⟨hQuery, -⟩ := (hDecided ⟨.query, "", [.blob [0xFF]]⟩).query select rfl rfl hMatch
  obtain ⟨hArguments, -⟩ := (hDecided _).arguments (hRecognises [.text "eve"]) rfl
  obtain ⟨hComparison, hState⟩ := (hDecided _).comparison _ (hRecognises [.blob [0xFF]]) rfl
  obtain ⟨outcome, hOutcome, hClaim⟩ := (hDecided _).claim (hRecognises [.text "bob"]) rfl
  have hRows : outcome.rows = some rows := (hOutcome.rows rows).mpr ⟨_, _, rfl⟩
  exact ⟨records, next, rows, _, rfl, hDescription, hKind, hQuery, hArguments, hComparison, hState,
    outcome, hOutcome.error, hRows, hClaim⟩

end ScriptedDb
