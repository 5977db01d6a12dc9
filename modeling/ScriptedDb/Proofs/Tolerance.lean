import ScriptedDb.Proofs.Counter

/-! Strictness is asked only where a scan has run to the end. An ordered scan does so only over
fulfilled expectations. -/

namespace ScriptedDb

variable {call : Call} {records : List Expectation}

/-- What a lenient dispatch does that claims nothing: its scan runs to the end and it tolerates the
call, or it is ordered and the first pending expectation refuses the call. -/
theorem dispatch_lenient_miss {ordered : Bool}
    (hMiss : ∀ claim, (dispatch ⟨ordered, false⟩ call records).answer ≠ .ok (some claim)) :
    (dispatch ⟨ordered, false⟩ call records).state = records ∧
    (((∀ e ∈ records, e.stops ordered call = false) ∧
        (dispatch ⟨ordered, false⟩ call records).answer = .ok none) ∨
      (ordered = true ∧ ∃ e, records.find? (fun e => !e.fulfilled) = some e ∧
        (dispatch ⟨ordered, false⟩ call records).answer = .error (e.refusal call))) := by
  rcases exists_first_or_forall (Expectation.stops ordered call) records with
    ⟨index, e, hFirst⟩ | hNone
  · cases hTakes : e.takes call with
    | true => exact absurd (dispatch_of_first_takes ⟨ordered, false⟩ hFirst hTakes).1 (hMiss _)
    | false =>
      -- What stops an unordered scan also takes the call, so this scan is ordered.
      have hOrdered : ordered = true := by
        cases ordered with
        | true => rfl
        | false => exact absurd hFirst.holds (by simp [Expectation.stops, hTakes])
      subst hOrdered
      obtain ⟨hAnswer, hState⟩ := dispatch_of_first_refuses ⟨true, false⟩ hFirst hTakes
      exact ⟨hState, .inr ⟨rfl, e, hFirst.find?_eq, hAnswer⟩⟩
  · obtain ⟨hAnswer, hState⟩ := dispatch_of_none ⟨ordered, false⟩ hNone
    exact ⟨hState, .inl ⟨hNone, hAnswer⟩⟩

/-- An ordered scan runs to the end exactly where nothing is pending. -/
theorem forall_stops_ordered_iff :
    (∀ e ∈ records, e.stops true call = false) ↔ ∀ e ∈ records, e.fulfilled = true := by
  simp [Expectation.stops]

/-- Where a dispatch claims nothing and changes nothing, a request is answered with its error or has
nothing to deliver. -/
theorem Session.serve_of_miss {s : Session} {request : Request} {config : Config}
    (hConfig : s.config = config)
    (hMiss : ∀ claim, (dispatch config request.call s.records).answer ≠ .ok (some claim))
    (hState : (dispatch config request.call s.records).state = s.records) :
    (s.serve request).state = s ∧
      (s.serve request).answer =
        (dispatch config request.call s.records).answer.map fun _ => request.nothing := by
  subst hConfig
  refine ⟨by rw [serve_state, hState], ?_⟩
  rw [serve_answer]
  cases hAnswer : (dispatch s.config request.call s.records).answer with
  | error e => exact request.conclude_error _ e
  | ok claim? =>
    cases claim? with
    | none => exact request.conclude_none _
    | some claim => exact absurd hAnswer (hMiss claim)

/-- A call that claims nothing in a lenient session changes nothing. It is tolerated exactly if the
session is unordered or has nothing pending; otherwise the first pending expectation refuses it with
the error of a strict session. A request succeeds, with nothing to deliver, exactly where its
dispatch is tolerated. -/
theorem lenient_call_tolerated_iff (ordered : Bool) (call : Call) (records : List Expectation)
    (hMiss : ∀ claim, (dispatch ⟨ordered, false⟩ call records).answer ≠ .ok (some claim)) :
    (dispatch ⟨ordered, false⟩ call records).state = records ∧
    ((dispatch ⟨ordered, false⟩ call records).answer = .ok none ↔
      ordered = false ∨ ∀ e ∈ records, e.fulfilled = true) ∧
    (∀ e, ordered = true → records.find? (fun e => !e.fulfilled) = some e →
      (dispatch ⟨ordered, false⟩ call records).answer = .error (e.refusal call)) ∧
    ∀ (s : Session) (request : Request), s.config = ⟨ordered, false⟩ → s.records = records →
      request.call = call → (s.serve request).state = s ∧
        (s.serve request).answer =
          (dispatch ⟨ordered, false⟩ call records).answer.map fun _ => request.nothing := by
  obtain ⟨hState, hCases⟩ := dispatch_lenient_miss hMiss
  refine ⟨hState, ?_, ?_, ?_⟩
  · rcases hCases with ⟨hPasses, hAnswer⟩ | ⟨hOrdered, e, hFind, hAnswer⟩
    · refine iff_of_true hAnswer ?_
      cases ordered with
      | false => exact .inl rfl
      | true => exact .inr (forall_stops_ordered_iff.mp hPasses)
    · have hPending := List.find?_some hFind
      have hMem := List.mem_of_find?_eq_some hFind
      rw [hAnswer, hOrdered]
      simp only [reduceCtorEq, false_or, false_iff]
      intro hAll
      simp [hAll e hMem] at hPending
  · intro e hOrdered hFind
    rcases hCases with ⟨hPasses, -⟩ | ⟨-, e', hFind', hAnswer⟩
    · subst hOrdered
      have hPending := List.find?_some hFind
      simp [forall_stops_ordered_iff.mp hPasses e (List.mem_of_find?_eq_some hFind)] at hPending
    · obtain rfl : e' = e := Option.some.inj (hFind'.symm.trans hFind)
      exact hAnswer
  · rintro s request hConfig rfl rfl
    exact Session.serve_of_miss hConfig hMiss hState

/-- An unordered lenient session tolerates a commit although a begin is pending. -/
theorem lenient_call_tolerated_commit :
    ∃ (s : Session), s.config = ⟨false, false⟩ ∧ s.pendingCount = 1 ∧
      (s.serve .commit).answer = .ok .done ∧ (s.serve .commit).state = s := by
  let s : Session := { dsn := "", config := ⟨false, false⟩, records := [{ payload := .begin }] }
  have hMiss : ∀ claim, (dispatch ⟨false, false⟩ (.bare .commit) s.records).answer ≠
      .ok (some claim) := by
    intro claim
    exact nofun
  obtain ⟨-, hTolerated, -, hServe⟩ := lenient_call_tolerated_iff false (.bare .commit) s.records hMiss
  obtain ⟨hState, hAnswer⟩ := hServe s .commit rfl rfl rfl
  rw [hTolerated.mpr (.inl rfl)] at hAnswer
  exact ⟨s, rfl, rfl, hAnswer, hState⟩

/-- An ordered lenient session does not tolerate a commit when a begin is next: no expectation was
claimed and the call failed. -/
theorem lenient_call_refused_commit :
    ∃ (s : Session) (next : String), s.config = ⟨true, false⟩ ∧
      s.records = [{ payload := .begin }] ∧
      (∀ claim, (dispatch s.config (.bare .commit) s.records).answer ≠ .ok (some claim)) ∧
      (dispatch s.config (.bare .commit) s.records).answer =
        .error (.unexpectedCall "commit transaction" next) ∧
      (s.serve .commit).answer = .error (.unexpectedCall "commit transaction" next) := by
  refine ⟨{ dsn := "", config := ⟨true, false⟩, records := [{ payload := .begin }] }, _, rfl, rfl,
    ?_, rfl, rfl⟩
  intro claim
  exact nofun

end ScriptedDb
