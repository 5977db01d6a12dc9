import ScriptedDb.History
import ScriptedDb.Proofs.Session.Serve

/-! What an ordered scan claims is the first pending expectation, so it is the first one in any
order that takes the call. -/

namespace ScriptedDb

variable {call : Call} {records : List Expectation}

/-- What an ordered scan goes past is fulfilled, and stops no scan at all. -/
theorem Passes.of_ordered {count : Nat} (h : Passes true call records count) (ordered : Bool) :
    Passes ordered call records count := by
  intro e he
  have hDone : e.fulfilled = true := by simpa [Expectation.stops] using h e he
  cases ordered <;> simp [Expectation.stops, Expectation.takes, hDone]

/-- What a dispatch in order claims is claimed in every mode, with the same outcome, the same
expectations left and the same event. -/
theorem dispatch_eq_of_ordered_claim {strict : Bool} {claim : Claim}
    (h : (dispatch ⟨true, strict⟩ call records).answer = .ok (some claim)) (config : Config) :
    dispatch config call records = dispatch ⟨true, strict⟩ call records := by
  rcases dispatch_cases ⟨true, strict⟩ call records with
    ⟨index, e, he, hPasses, hTakes, -, -⟩ | ⟨-, ⟨e, hError, -⟩ | ⟨-, hNothing⟩, -⟩
  · rw [dispatch_of_takes hPasses he hTakes,
      dispatch_of_takes (hPasses.of_ordered config.ordered) he hTakes]
  · rw [h] at hError
    cases hError
  · rw [h] at hNothing
    cases hNothing

/-- Whatever the order, a strict and a lenient dispatch make the same claim, or both make none and
change nothing; then they answer with the same error, or the lenient one tolerates what the strict
one reports as not expected or not comparable. -/
theorem dispatch_strict_lenient (ordered : Bool) (call : Call) (records : List Expectation) :
    (∃ claim, (dispatch ⟨ordered, true⟩ call records).answer = .ok (some claim) ∧
      dispatch ⟨ordered, false⟩ call records = dispatch ⟨ordered, true⟩ call records) ∨
    ((dispatch ⟨ordered, true⟩ call records).state = records ∧
      (dispatch ⟨ordered, false⟩ call records).state = records ∧
      ∃ e, (dispatch ⟨ordered, true⟩ call records).answer = .error e ∧
        ((dispatch ⟨ordered, false⟩ call records).answer = .error e ∨
          ((dispatch ⟨ordered, false⟩ call records).answer = .ok none ∧
            (e.code = "not_expected" ∨ e.code = "argument_conversion")))) := by
  rcases exists_first_or_forall (Expectation.stops ordered call) records with
    ⟨index, e, hFirst⟩ | hNone
  · cases hTakes : e.takes call with
    | true =>
      left
      have hStrict : dispatch ⟨ordered, true⟩ call records = _ :=
        dispatch_of_takes hFirst.before hFirst.found hTakes
      have hLenient : dispatch ⟨ordered, false⟩ call records = _ :=
        dispatch_of_takes hFirst.before hFirst.found hTakes
      rw [hStrict, hLenient]
      exact ⟨_, rfl, rfl⟩
    | false =>
      right
      obtain ⟨hStrict, hStrictState⟩ := dispatch_of_first_refuses ⟨ordered, true⟩ hFirst hTakes
      obtain ⟨hLenient, hLenientState⟩ := dispatch_of_first_refuses ⟨ordered, false⟩ hFirst hTakes
      exact ⟨hStrictState, hLenientState, _, hStrict, .inl hLenient⟩
  · right
    obtain ⟨hStrict, hStrictState⟩ := dispatch_of_none ⟨ordered, true⟩ hNone
    obtain ⟨hLenient, hLenientState⟩ := dispatch_of_none ⟨ordered, false⟩ hNone
    refine ⟨hStrictState, hLenientState, ?_⟩
    rcases unmatched_strict call records with ⟨text, failure, hError⟩ | hError
    · exact ⟨_, hStrict.trans hError, .inr ⟨hLenient, .inr rfl⟩⟩
    · exact ⟨_, hStrict.trans hError, .inr ⟨hLenient, .inl rfl⟩⟩

namespace Session

def inMode (s : Session) (config : Config) : Session :=
  { s with config }

variable {s : Session} {request : Request} {requests : List Request}

/-- What an ordered session claims, it claims in every mode, with the same answer. -/
theorem serve_inMode_of_claim (hOrdered : s.config.ordered = true)
    (hClaim : (s.claimFor? request).isSome = true) (config : Config) :
    (s.inMode config).claimFor? request = s.claimFor? request ∧
      ((s.inMode config).serve request).answer = (s.serve request).answer ∧
      ((s.inMode config).serve request).state = (s.serve request).state.inMode config := by
  have hMode : s.config = ⟨true, s.config.requireExpectations⟩ := by
    rw [← hOrdered]
  have hSame : dispatch config request.call s.records =
      dispatch s.config request.call s.records := by
    unfold claimFor? at hClaim
    split at hClaim
    · rename_i claim? hAnswer
      obtain ⟨claim, rfl⟩ := Option.isSome_iff_exists.mp hClaim
      rw [hMode] at hAnswer ⊢
      exact dispatch_eq_of_ordered_claim hAnswer config
    · cases hClaim
  refine ⟨?_, ?_, ?_⟩
  · simp only [claimFor?, inMode, hSame]
  · simp only [serve_answer, inMode, hSame]
  · simp only [serve_state, inMode, hSame]

theorem config_of_mem_history {m : Moment Session Request Response}
    (h : m ∈ history serve requests s) : m.before.config = s.config := by
  induction requests generalizing s with
  | nil => cases h
  | cons request requests ih =>
    rcases List.mem_cons.mp h with rfl | h
    · rfl
    · rw [ih h, serve_state]

/-- A run of requests that an ordered session all claims goes the same way in every mode. -/
theorem history_inMode_of_claims (hOrdered : s.config.ordered = true)
    (hClaims : ∀ m ∈ history serve requests s, (m.before.claimFor? m.operation).isSome = true)
    (config : Config) :
    history serve requests (s.inMode config) =
      (history serve requests s).map (Moment.mapStates (inMode · config)) := by
  refine history_mapStates (inMode · config) fun m hm => ?_
  have hConfig := config_of_mem_history hm
  obtain ⟨hAnswer, hAfter⟩ := by_of_mem_history hm
  rw [hAnswer, hAfter]
  exact (serve_inMode_of_claim (hConfig ▸ hOrdered) (hClaims m hm) config).2

/-- Such a run makes the same claims in every mode. -/
theorem claims_inMode_of_claims (hOrdered : s.config.ordered = true)
    (hClaims : ∀ m ∈ history serve requests s, (m.before.claimFor? m.operation).isSome = true)
    (config : Config) :
    (history serve requests (s.inMode config)).map (fun m => m.before.claimFor? m.operation) =
      (history serve requests s).map fun m => m.before.claimFor? m.operation := by
  rw [history_inMode_of_claims hOrdered hClaims, List.map_map]
  refine List.map_congr_left fun m hm => ?_
  have hConfig := config_of_mem_history hm
  exact (serve_inMode_of_claim (hConfig ▸ hOrdered) (hClaims m hm) config).1

end Session

/-- The modes agree on every claim. What a dispatch in order claims, a dispatch in any mode claims
from the same expectations: the same one, with the same outcome and the same expectations left. So
a run of requests that an ordered session all claims has the same claims, answers and states in any
mode. In either order, strictness changes no claim; without one, nothing is changed, and a lenient
dispatch gives the error of the strict one or tolerates a call that the strict one reports as not
expected or not comparable. -/
theorem modes_agree (call : Call) (records : List Expectation) :
    (∀ strict claim, (dispatch ⟨true, strict⟩ call records).answer = .ok (some claim) →
      ∀ config, dispatch config call records = dispatch ⟨true, strict⟩ call records) ∧
    (∀ (s : Session) (requests : List Request), s.config.ordered = true →
      (∀ m ∈ history Session.serve requests s,
        (m.before.claimFor? m.operation).isSome = true) →
      ∀ config,
        (history Session.serve requests (s.inMode config)).map
            (fun m => m.before.claimFor? m.operation) =
          (history Session.serve requests s).map (fun m => m.before.claimFor? m.operation) ∧
        history Session.serve requests (s.inMode config) =
          (history Session.serve requests s).map (Moment.mapStates (·.inMode config))) ∧
    ∀ ordered,
      (∃ claim, (dispatch ⟨ordered, true⟩ call records).answer = .ok (some claim) ∧
        dispatch ⟨ordered, false⟩ call records = dispatch ⟨ordered, true⟩ call records) ∨
      ((dispatch ⟨ordered, true⟩ call records).state = records ∧
        (dispatch ⟨ordered, false⟩ call records).state = records ∧
        ∃ e, (dispatch ⟨ordered, true⟩ call records).answer = .error e ∧
          ((dispatch ⟨ordered, false⟩ call records).answer = .error e ∨
            ((dispatch ⟨ordered, false⟩ call records).answer = .ok none ∧
              (e.code = "not_expected" ∨ e.code = "argument_conversion")))) := by
  refine ⟨fun strict claim h config => dispatch_eq_of_ordered_claim h config, ?_,
    fun ordered => dispatch_strict_lenient ordered call records⟩
  intro s requests hOrdered hClaims config
  exact ⟨Session.claims_inMode_of_claims hOrdered hClaims config,
    Session.history_inMode_of_claims hOrdered hClaims config⟩

/-- A transaction is begun and committed as declared, in order and strictly; then by the same script
in no order and leniently. -/
theorem modes_agree_begin_commit :
    ∃ s : Session, s.config = {} ∧
      (∀ m ∈ history Session.serve [.begin, .commit] s,
        (m.before.claimFor? m.operation).isSome = true) ∧
      (history Session.serve [.begin, .commit] (s.inMode ⟨false, false⟩)).map
          (fun m => (m.before.claimFor? m.operation).map Claim.index) = [some 0, some 1] := by
  let s : Session := { dsn := "", records := [{ payload := .begin }, { payload := .commit }] }
  have hClaims : ∀ m ∈ history Session.serve [.begin, .commit] s,
      (m.before.claimFor? m.operation).isSome = true := by decide
  refine ⟨s, rfl, hClaims, ?_⟩
  have hSame := ((modes_agree (.bare .begin) []).2.1 s _ rfl hClaims ⟨false, false⟩).1
  have hIndices := congrArg (List.map (Option.map Claim.index)) hSame
  simp only [List.map_map, Function.comp_def] at hIndices
  rw [hIndices]
  rfl

end ScriptedDb
