import Mathlib.Data.List.Perm.Basic
import ScriptedDb.Proofs.Race.Linearization
import ScriptedDb.Proofs.Session.Serve

/-! What another call claims was there for that call only, so it is neither the first one for this
call nor comes to be. -/

namespace ScriptedDb

variable {strict : Bool} {a b call : Call} {records : List Expectation}

/-- No expectation is there for both calls. -/
def Apart (records : List Expectation) (a b : Call) : Prop :=
  ∀ e ∈ records, ¬ (e.takes a = true ∧ e.takes b = true)

theorem Apart.symm (h : Apart records a b) : Apart records b a := by
  intro e he hBoth
  exact h e he hBoth.symm

/-- An unordered dispatch fulfils the first expectation that takes the call, if there is one. -/
theorem dispatch_unordered (strict : Bool) (call : Call) (records : List Expectation) :
    claimedIndex? (dispatch ⟨false, strict⟩ call records).answer =
        records.findIdx? (·.takes call) ∧
      (dispatch ⟨false, strict⟩ call records).state =
        (records.findIdx? (·.takes call)).elim records
          fun index => records.modify index Expectation.fulfil := by
  rcases exists_first_or_forall (·.takes call) records with ⟨index, e, hFirst⟩ | hNone
  · obtain ⟨hAnswer, hState⟩ := dispatch_of_first_takes ⟨false, strict⟩ hFirst hFirst.holds
    rw [hAnswer, hState, hFirst.findIdx?_eq, Option.elim_some, List.modify_eq_set_getElem?,
      hFirst.found]
    exact ⟨rfl, rfl⟩
  · obtain ⟨hAnswer, hState⟩ := dispatch_of_none ⟨false, strict⟩ hNone
    rw [hAnswer, hState, List.findIdx?_eq_none_iff.mpr hNone]
    obtain ⟨error, hMiss, -⟩ | ⟨-, hMiss⟩ := unmatched_cases strict call records
    · rw [hMiss]
      exact ⟨rfl, rfl⟩
    · rw [hMiss]
      exact ⟨rfl, rfl⟩

/-- What a call leaves is as it was found, or takes no call any more. -/
theorem mem_state_dispatch {config : Config} {e : Expectation}
    (he : e ∈ (dispatch config call records).state) :
    e ∈ records ∨ ∀ other, e.takes other = false := by
  rcases dispatch_cases config call records with
    ⟨index, e', -, -, -, -, hState⟩ | ⟨-, -, hState⟩
  · rw [hState] at he
    rcases List.mem_or_eq_of_mem_set he with hOld | rfl
    · exact .inl hOld
    · exact .inr (Expectation.takes_fulfil e')
  · rw [hState] at he
    exact .inl he

theorem Apart.kept (h : Apart records a b) (config : Config) (call : Call) :
    Apart (dispatch config call records).state a b := by
  intro e he hBoth
  rcases mem_state_dispatch he with hOld | hTaken
  · exact h e hOld hBoth
  · rw [hTaken a] at hBoth
    exact Bool.false_ne_true hBoth.1

/-- What a call claims does not change the first expectation that takes another call. -/
theorem Apart.findIdx?_dispatch (h : Apart records a b) :
    (dispatch ⟨false, strict⟩ a records).state.findIdx? (·.takes b) =
      records.findIdx? (·.takes b) := by
  rcases exists_first_or_forall (·.takes a) records with ⟨index, e, hFirst⟩ | hNone
  · rw [(dispatch_of_first_takes ⟨false, strict⟩ hFirst hFirst.holds).2]
    have hOther : e.takes b = false := by
      rw [Bool.eq_false_iff]
      intro hTakes
      exact h e (List.mem_of_getElem? hFirst.found) ⟨hFirst.holds, hTakes⟩
    obtain ⟨hLt, rfl⟩ := List.getElem?_eq_some_iff.mp hFirst.found
    have hSame : (records.set index records[index].fulfil).map (·.takes b) =
        records.map (·.takes b) := by
      apply List.ext_getElem (by simp)
      intro j hj hj'
      by_cases hEq : index = j
      · subst hEq
        simp [hOther]
      · simp [hEq]
    have hFind (l : List Expectation) :
        l.findIdx? (·.takes b) = (l.map (·.takes b)).findIdx? id := by
      rw [List.findIdx?_map]
      rfl
    rw [hFind, hSame, ← hFind]
  · rw [(dispatch_of_none ⟨false, strict⟩ hNone).2]

theorem modify_fulfil_comm (records : List Expectation) (i j : Nat) :
    (records.modify i Expectation.fulfil).modify j Expectation.fulfil =
      (records.modify j Expectation.fulfil).modify i Expectation.fulfil := by
  apply List.ext_getElem?
  intro k
  simp only [List.getElem?_modify]
  cases records[k]? with
  | none => rfl
  | some e => by_cases hi : i = k <;> by_cases hj : j = k <;> simp [hi, hj]

/-- Two calls that are apart leave the same expectations in either order. -/
theorem Apart.dispatch_comm (h : Apart records a b) :
    (dispatch ⟨false, strict⟩ b (dispatch ⟨false, strict⟩ a records).state).state =
      (dispatch ⟨false, strict⟩ a (dispatch ⟨false, strict⟩ b records).state).state := by
  have hA := (dispatch_unordered strict a records).2
  have hB := (dispatch_unordered strict b records).2
  rw [(dispatch_unordered strict b (dispatch ⟨false, strict⟩ a records).state).2,
    (dispatch_unordered strict a (dispatch ⟨false, strict⟩ b records).state).2,
    h.findIdx?_dispatch, h.symm.findIdx?_dispatch, hA, hB]
  cases records.findIdx? (·.takes a) with
  | none => rfl
  | some i =>
    cases records.findIdx? (·.takes b) with
    | none => rfl
    | some j => exact modify_fulfil_comm records i j

/-- Each of several calls that are apart claims what it would claim alone. -/
theorem claims_of_apart {calls : List Call} (h : calls.Pairwise (Apart records)) :
    (answers (dispatch ⟨false, strict⟩) calls records).map claimedIndex? =
      calls.map fun call => records.findIdx? (·.takes call) := by
  induction calls generalizing records with
  | nil => rfl
  | cons call calls ih =>
    obtain ⟨hCall, hCalls⟩ := List.pairwise_cons.mp h
    have hTail := ih (hCalls.imp fun hApart => hApart.kept ⟨false, strict⟩ call)
    rw [answers, history_cons, List.map_cons, List.map_cons, List.map_cons,
      (dispatch_unordered strict call records).1]
    apply congrArg (List.cons _)
    rw [← answers, hTail]
    apply List.map_congr_left
    intro other hOther
    exact (hCall other hOther).findIdx?_dispatch

/-- Calls that are apart leave the same expectations in every order. -/
theorem afterAll_perm_of_apart {calls order : List Call} (hPerm : calls.Perm order)
    (h : calls.Pairwise (Apart records)) :
    afterAll (dispatch ⟨false, strict⟩) calls records =
      afterAll (dispatch ⟨false, strict⟩) order records := by
  induction hPerm generalizing records with
  | nil => rfl
  | cons call _ ih =>
    obtain ⟨-, hCalls⟩ := List.pairwise_cons.mp h
    rw [afterAll_cons, afterAll_cons]
    exact ih (hCalls.imp fun hApart => hApart.kept ⟨false, strict⟩ call)
  | swap first second rest =>
    obtain ⟨hSecond, -⟩ := List.pairwise_cons.mp h
    have hApart := hSecond first List.mem_cons_self
    simp only [afterAll_cons, hApart.dispatch_comm]
  | trans hLeft _ ihLeft ihRight =>
    rw [ihLeft h]
    exact ihRight (h.perm hLeft fun hApart => hApart.symm)

/-- Unordered calls no two of which any pending expectation takes commute. In every order, each of
them claims what it would claim if it came alone, or nothing if that is so, and the expectations that
are left are the same. -/
theorem independent_calls_commute (strict : Bool) {calls : List Call} {records : List Expectation}
    (hApart : calls.Pairwise (Apart records)) {order : List Call} (hOrder : calls.Perm order) :
    afterAll (dispatch ⟨false, strict⟩) order records =
        afterAll (dispatch ⟨false, strict⟩) calls records ∧
      (answers (dispatch ⟨false, strict⟩) order records).map claimedIndex? =
        order.map (fun call => records.findIdx? (·.takes call)) ∧
      (answers (dispatch ⟨false, strict⟩) calls records).map claimedIndex? =
        calls.map fun call => records.findIdx? (·.takes call) :=
  ⟨(afterAll_perm_of_apart hOrder hApart).symm,
    claims_of_apart (hApart.perm hOrder fun h => h.symm), claims_of_apart hApart⟩

/-- A commit, a rollback that nothing is declared for and a begin, in two orders. -/
theorem independent_calls_commute_three :
    ∃ (calls order : List Call) (records : List Expectation),
      records.map (·.kind) = [.begin, .commit, .begin] ∧
      calls.map (·.kind) = [.commit, .rollback, .begin] ∧
      order.map (·.kind) = [.begin, .commit, .rollback] ∧
      calls.Pairwise (Apart records) ∧
      (answers (dispatch .concurrent) order records).map claimedIndex? = [some 0, some 1, none] ∧
      (answers (dispatch .concurrent) calls records).map claimedIndex? = [some 1, none, some 0] ∧
      afterAll (dispatch .concurrent) order records =
        afterAll (dispatch .concurrent) calls records := by
  let records : List Expectation :=
    [{ payload := .begin }, { payload := .commit }, { payload := .begin }]
  have hApart : [Call.bare .commit, .bare .rollback, .bare .begin].Pairwise (Apart records) := by
    simp [records, Apart, Expectation.takes, Expectation.fits, Expectation.kind, Payload.kind,
      Call.bare]
  have hOrder : [Call.bare .commit, .bare .rollback, .bare .begin].Perm
      [.bare .begin, .bare .commit, .bare .rollback] :=
    List.perm_append_singleton _ [Call.bare .commit, .bare .rollback]
  obtain ⟨hSame, hLater, hFirst⟩ := independent_calls_commute true hApart hOrder
  exact ⟨_, _, records, rfl, rfl, rfl, hApart, hLater, hFirst, hSame⟩

end ScriptedDb
