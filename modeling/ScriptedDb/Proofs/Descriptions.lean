import ScriptedDb.Expectation.Describe
import ScriptedDb.Proofs.ArgumentLists

/-! Errors name an expectation by its description only. -/

namespace ScriptedDb.Expectation

theorem describePayload_of_pattern? {payload : Payload} {pattern : QueryPattern}
    (h : payload.pattern? = some pattern) :
    ∃ before after, describePayload payload = before ++ describePattern pattern ++ after := by
  cases payload with
  | close | begin | commit | rollback => cases h
  | prepare | exec | query =>
    obtain rfl := Option.some.inj h
    unfold describePayload
    exact ⟨_, _, String.append_assoc⟩

/-- The text ends in a character that is no closing bracket. -/
def Unbracketed (s : String) : Prop :=
  ∃ c, s.toList.getLast? = some c ∧ c ≠ ')'

theorem Unbracketed.append {t : String} (h : Unbracketed t) (s : String) : Unbracketed (s ++ t) := by
  obtain ⟨c, hLast, hc⟩ := h
  exact ⟨c, by simp [String.toList_append, List.getLast?_append, hLast], hc⟩

theorem unbracketed_quote : Unbracketed "'" :=
  ⟨'\'', by decide, by decide⟩

theorem unbracketed_list : Unbracketed "]" :=
  ⟨']', by decide, by decide⟩

theorem unbracketed_describeFault (words : String) (fault : Fault) :
    Unbracketed (describeFault words (some fault)) :=
  unbracketed_quote.append _

theorem unbracketed_describePattern (pattern : QueryPattern) :
    Unbracketed (describePattern pattern) :=
  unbracketed_quote.append _

/-- What is expected of a query and its arguments. -/
theorem unbracketed_expected (words : String) (pattern : QueryPattern)
    (args : Option (List Argument)) :
    Unbracketed (words ++ describePattern pattern ++ describeArgs args) := by
  match args with
  | none =>
    rw [describeArgs, String.append_empty]
    exact (unbracketed_describePattern pattern).append words
  | some [] => exact Unbracketed.append ⟨'s', by decide, by decide⟩ _
  | some (a :: as) => exact ((unbracketed_list.append _).append _).append _

/-- What is expected is not described with a closing bracket at the end, the counts of an Exec
excepted. -/
theorem describePayload_ends (payload : Payload) :
    Unbracketed (describePayload payload) ∨
      ∃ s i, describePayload payload = s ++ toString (i : Int) ++ ")" := by
  unfold describePayload
  cases payload with
  | close => exact .inl ⟨'e', by decide, by decide⟩
  | begin => exact .inl ⟨'n', by decide, by decide⟩
  | commit => exact .inl ⟨'t', by decide, by decide⟩
  | rollback => exact .inl ⟨'k', by decide, by decide⟩
  | prepare pattern closeError mustBeClosed closed =>
    left
    cases closeError with
    | some fault => exact (unbracketed_describeFault _ fault).append _
    | none =>
      simp only [describeFault, String.append_empty]
      cases mustBeClosed with
      | true => exact Unbracketed.append ⟨'d', by decide, by decide⟩ _
      | false =>
        rw [if_neg Bool.false_ne_true, String.append_empty]
        exact (unbracketed_describePattern pattern).append _
  | exec pattern args result =>
    cases result with
    | none =>
      left
      simp only [describeResult_none, String.append_empty]
      exact unbracketed_expected "Exec" pattern args
    | some result =>
      cases result with
      | failed fault =>
        left
        exact Unbracketed.append ⟨'t', by simp, by decide⟩ _
      | counts id rows =>
        right
        unfold describeResult
        simp only [← String.append_assoc]
        exact ⟨_, rows.toInt, rfl⟩
  | query pattern args rows =>
    left
    cases rows with
    | none =>
      simp only [describeRows, String.append_empty]
      exact unbracketed_expected "Query" pattern args
    | some rows =>
      exact ((unbracketed_list.append _).append _).append _

theorem Unbracketed.ne_marked {s : String} (h : Unbracketed s) (before : String) :
    s ≠ before ++ " (fulfilled)" := by
  rintro rfl
  obtain ⟨c, hLast, hc⟩ := h
  rw [String.toList_append, List.getLast?_append] at hLast
  exact hc (Option.some.inj hLast).symm

/-- Before the closing bracket the mark has a letter, and never a digit. -/
theorem counts_ne_marked (s : String) (i : Int) (before : String) :
    s ++ toString i ++ ")" ≠ before ++ " (fulfilled)" := by
  intro h
  have hMark : " (fulfilled)" = " (fulfilled" ++ ")" := by decide
  rw [hMark, ← String.append_assoc] at h
  have hBefore : s ++ toString i = before ++ " (fulfilled" := by simpa using h
  obtain ⟨c, hc⟩ : ∃ c, (Json.renderInt i).getLast? = some c := by
    obtain ⟨c, ds, hText, -⟩ := Json.exists_renderInt_eq_cons i
    simp [hText, List.getLast?_cons]
  have hLast := congrArg (·.toList.getLast?) hBefore
  simp only [String.toList_append, List.getLast?_append, Value.toList_toString_int, hc] at hLast
  have hDigit := Value.continuesInteger_of_mem_renderInt (List.mem_of_getLast? hc)
  rw [Option.some.inj hLast] at hDigit
  revert hDigit
  decide

theorem describe_pending_ne_marked (e : Expectation) (head before : String) :
    head ++ describePayload e.payload ++ describeFault "failing" e.error ≠
      before ++ " (fulfilled)" := by
  cases e.error with
  | some fault => exact ((unbracketed_describeFault _ fault).append _).ne_marked before
  | none =>
    rw [describeFault, String.append_empty]
    rcases describePayload_ends e.payload with hEnd | ⟨s, i, hCounts⟩
    · exact (hEnd.append head).ne_marked before
    · rw [hCounts, ← String.append_assoc, ← String.append_assoc]
      exact counts_ne_marked (head ++ s) i before

/-- A description begins with the kind, quotes the pattern that queries must match, and ends in the
mark exactly when the expectation was claimed. -/
theorem describe_tells (e : Expectation) :
    (∃ rest, e.describe = "Expected" ++ e.kind.name ++ " => expecting " ++ rest) ∧
    (∀ pattern, e.payload.pattern? = some pattern →
      ∃ before after, e.describe = before ++ " matching '" ++ pattern.text ++ "'" ++ after) ∧
    (e.fulfilled = true ↔ ∃ before, e.describe = before ++ " (fulfilled)") := by
  refine ⟨?_, ?_, ?_⟩
  · rw [describe, String.append_assoc, String.append_assoc]
    exact ⟨_, rfl⟩
  · intro pattern hPattern
    obtain ⟨before, after, hPayload⟩ := describePayload_of_pattern? hPattern
    obtain ⟨head, rest, hDescribe⟩ :
        ∃ head rest, e.describe = head ++ describePayload e.payload ++ rest := by
      rw [describe, String.append_assoc]
      exact ⟨_, _, rfl⟩
    refine ⟨head ++ before, after ++ rest, ?_⟩
    rw [hDescribe, hPayload, describePattern]
    simp only [String.append_assoc]
  · constructor
    · intro h
      rw [describe, if_pos h]
      exact ⟨_, rfl⟩
    · rintro ⟨before, hMark⟩
      cases hDone : e.fulfilled with
      | true => rfl
      | false =>
        rw [describe, hDone, if_neg Bool.false_ne_true, String.append_empty] at hMark
        exact absurd hMark (describe_pending_ne_marked e _ before)

end ScriptedDb.Expectation
