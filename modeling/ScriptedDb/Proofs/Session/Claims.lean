import Mathlib.Data.List.Nodup
import ScriptedDb.Proofs.Session.Effect
import ScriptedDb.Session.Operation

/-! Only a request changes which expectations are fulfilled, and it fulfils at most one. -/

namespace ScriptedDb

namespace Session

def flags (s : Session) : List Bool :=
  s.records.map Expectation.fulfilled

theorem isFulfilled_iff {s : Session} {index : Nat} :
    s.isFulfilled index = true ↔ s.flags[index]? = some true := by
  cases h : s.records[index]? <;> simp [isFulfilled, flags, h]

theorem fulfilledCount_eq (s : Session) : s.fulfilledCount = s.flags.count true := by
  rw [fulfilledCount, flags, List.count, List.countP_map]
  refine List.countP_congr fun e _ => ?_
  simp

theorem lt_of_isFulfilled {s : Session} {index : Nat} (h : s.isFulfilled index = true) :
    index < s.records.length := by
  rw [isFulfilled_iff] at h
  obtain ⟨hLt, -⟩ := List.getElem?_eq_some_iff.mp h
  simpa [flags] using hLt

/-- Nothing was claimed between two states of a session: expectations may have been added, but
those are pending. -/
def ClaimsNothing (s s' : Session) : Prop :=
  ∃ added, s'.flags = s.flags ++ List.replicate added false

namespace ClaimsNothing

variable {s s' : Session}

theorem of_flags_eq (h : s'.flags = s.flags) : s.ClaimsNothing s' :=
  ⟨0, by simpa using h⟩

theorem refl (s : Session) : s.ClaimsNothing s :=
  .of_flags_eq rfl

theorem fulfilledCount_eq (h : s.ClaimsNothing s') : s'.fulfilledCount = s.fulfilledCount := by
  obtain ⟨added, hFlags⟩ := h
  rw [s'.fulfilledCount_eq, s.fulfilledCount_eq, hFlags, List.count_append]
  simp [List.count_replicate]

theorem isFulfilled_eq (h : s.ClaimsNothing s') (index : Nat) :
    s'.isFulfilled index = s.isFulfilled index := by
  obtain ⟨added, hFlags⟩ := h
  rw [Bool.eq_iff_iff, isFulfilled_iff, isFulfilled_iff, hFlags, List.getElem?_append]
  split
  · rfl
  · rename_i hGe
    have hNone : s.flags[index]? = none := List.getElem?_eq_none (by omega)
    simp [List.getElem?_replicate, hNone]

end ClaimsNothing

theorem fulfilled_rework {operation : Operation} (h : ∀ request, operation ≠ .request request)
    (s : Session) (index : Nat) (e : Expectation) :
    (s.rework operation index e).fulfilled = e.fulfilled := by
  unfold rework
  split
  · split <;> simp
  · split <;> simp
  · rename_i request
    exact absurd rfl (h request)
  · rfl

theorem claimsNothing_operate {operation : Operation}
    (h : ∀ request, operation ≠ .request request) (s : Session) :
    s.ClaimsNothing (s.operate operation).state := by
  obtain ⟨added, hBlank, hRecords⟩ := s.records_operate operation
  have hKept : (s.records.mapIdx (s.rework operation)).map Expectation.fulfilled = s.flags := by
    refine List.ext_getElem? fun j => ?_
    rw [flags, List.getElem?_map, List.getElem?_mapIdx, List.getElem?_map]
    cases s.records[j]? with
    | none => rfl
    | some e => exact congrArg some (fulfilled_rework h s j e)
  have hAdded : added.map Expectation.fulfilled = List.replicate added.length false :=
    List.map_eq_replicate_iff.mpr fun e he => (hBlank e he).fulfilled
  exact ⟨added.length, by rw [flags, hRecords, List.map_append, hKept, hAdded]⟩

variable {s : Session} {index : Nat} {e : Expectation}

theorem isFulfilled_claim (he : s.records[index]? = some e) (j : Nat) :
    (s.claim index).isFulfilled j = (j == index || s.isFulfilled j) := by
  simp only [isFulfilled, claim, List.getElem?_modify]
  by_cases hj : j = index
  · subst hj
    simp [he]
  · have hNe : index ≠ j := Ne.symm hj
    cases hAt : s.records[j]? <;> simp [hj, hNe]

theorem fulfilledCount_claim (he : s.records[index]? = some e) (hPending : e.fulfilled = false) :
    (s.claim index).fulfilledCount = s.fulfilledCount + 1 := by
  obtain ⟨hLt, rfl⟩ := List.getElem?_eq_some_iff.mp he
  simp only [fulfilledCount, claim]
  rw [List.modify_eq_set_getElem?, he]
  simp [List.countP_set hLt, hPending]

end Session

def Moment.claims {ω α : Type} (m : Moment Session ω α) : List Nat :=
  (List.range m.after.records.length).filter fun index =>
    m.after.isFulfilled index && !m.before.isFulfilled index

namespace Moment

variable {ω α : Type} {m : Moment Session ω α} {index : Nat}

theorem mem_claims : index ∈ m.claims ↔
    m.after.isFulfilled index = true ∧ m.before.isFulfilled index = false := by
  simp only [claims, List.mem_filter, List.mem_range, Bool.and_eq_true, Bool.not_eq_true']
  exact ⟨And.right, fun h => ⟨Session.lt_of_isFulfilled h.1, h⟩⟩

theorem claims_eq_nil (h : m.before.ClaimsNothing m.after) : m.claims = [] := by
  refine List.eq_nil_iff_forall_not_mem.mpr fun index hMem => ?_
  obtain ⟨hAfter, hBefore⟩ := mem_claims.mp hMem
  rw [h.isFulfilled_eq, hBefore] at hAfter
  cases hAfter

theorem claims_eq_singleton {e : Expectation} (he : m.before.records[index]? = some e)
    (hPending : e.fulfilled = false) (hAfter : m.after = m.before.claim index) :
    m.claims = [index] := by
  have hNodup : m.claims.Nodup := List.nodup_range.filter _
  rw [← List.perm_singleton, List.perm_ext_iff_of_nodup hNodup (List.nodup_singleton index)]
  intro j
  have hBefore : m.before.isFulfilled index = false := by
    simp [Session.isFulfilled, he, hPending]
  rw [mem_claims, hAfter, Session.isFulfilled_claim he, List.mem_singleton, Bool.or_eq_true,
    beq_iff_eq]
  constructor
  · rintro ⟨hj | hj, hj'⟩
    · exact hj
    · rw [hj] at hj'
      cases hj'
  · rintro rfl
    exact ⟨.inl rfl, hBefore⟩

variable {m : Moment Session Session.Operation Response}

theorem By.serve (h : m.By Session.operate) {request : Request}
    (hRequest : m.operation = .request request) :
    m.answer = (m.before.serve request).answer ∧ m.after = (m.before.serve request).state := by
  unfold By at h
  rwa [hRequest] at h

theorem By.claimsNothing (h : m.By Session.operate)
    (hOther : ∀ request, m.operation ≠ .request request) : m.before.ClaimsNothing m.after := by
  rw [h.2]
  exact Session.claimsNothing_operate hOther m.before

/-- What an operation claims: nothing, or one expectation that was pending. -/
theorem claims_cases (h : m.By Session.operate) :
    (m.claims = [] ∧ m.before.ClaimsNothing m.after) ∨
      ∃ index e, m.before.records[index]? = some e ∧ e.fulfilled = false ∧
        m.claims = [index] ∧ m.after = m.before.claim index := by
  have hNothing : m.before.ClaimsNothing m.after →
      m.claims = [] ∧ m.before.ClaimsNothing m.after := fun h => ⟨claims_eq_nil h, h⟩
  by_cases hRequest : ∃ request, m.operation = .request request
  · obtain ⟨request, hRequest⟩ := hRequest
    have hServed := (h.serve hRequest).2
    rcases m.before.serve_cases request with
      ⟨index, e, he, -, hTakes, -, -, hState⟩ | ⟨-, -, -, hState⟩
    · right
      have hPending := Expectation.pending_of_takes hTakes
      have hAfter := hServed.trans hState
      exact ⟨index, e, he, hPending, claims_eq_singleton he hPending hAfter, hAfter⟩
    · left
      exact hNothing (.of_flags_eq (by rw [hServed, hState]))
  · left
    exact hNothing (h.claimsNothing fun request hEq => hRequest ⟨request, hEq⟩)

end Moment

namespace Session

/-- Over a run, no expectation is claimed twice, and none that was fulfilled before. -/
theorem nodup_claims (ops : List Operation) (s : Session) :
    ((history operate ops s).flatMap Moment.claims).Nodup ∧
      ∀ index ∈ (history operate ops s).flatMap Moment.claims, s.isFulfilled index = false := by
  induction ops generalizing s with
  | nil => simp
  | cons op ops ih =>
    obtain ⟨hNodup, hPending⟩ := ih (s.operate op).state
    rw [history_cons, List.flatMap_cons]
    rcases Moment.claims_cases
        (m := ⟨s, op, (s.operate op).answer, (s.operate op).state⟩) ⟨rfl, rfl⟩ with
      ⟨hClaims, hNothing⟩ | ⟨index, e, he, hBefore, hClaims, hAfter⟩
    · rw [hClaims, List.nil_append]
      refine ⟨hNodup, fun index hIndex => ?_⟩
      rw [← hNothing.isFulfilled_eq]
      exact hPending index hIndex
    · have hAfter : (s.operate op).state = s.claim index := hAfter
      have hLater (j : Nat)
          (hj : j ∈ (history operate ops (s.operate op).state).flatMap Moment.claims) :
          j ≠ index ∧ s.isFulfilled j = false := by
        have hNot := hPending j hj
        rw [hAfter, isFulfilled_claim he, Bool.or_eq_false_iff, beq_eq_false_iff_ne] at hNot
        exact hNot
      rw [hClaims, List.singleton_append]
      refine ⟨List.nodup_cons.mpr ⟨fun hMem => (hLater index hMem).1 rfl, hNodup⟩, ?_⟩
      intro j hj
      rcases List.mem_cons.mp hj with rfl | hj
      · simpa [isFulfilled, he] using hBefore
      · exact (hLater j hj).2

/-- What is fulfilled after a run was fulfilled before or claimed in it. -/
theorem fulfilledCount_afterAll (ops : List Operation) (s : Session) :
    (afterAll operate ops s).fulfilledCount =
      s.fulfilledCount + ((history operate ops s).flatMap Moment.claims).length := by
  induction ops generalizing s with
  | nil => simp
  | cons op ops ih =>
    rw [afterAll_cons, ih, history_cons, List.flatMap_cons, List.length_append]
    rcases Moment.claims_cases
        (m := ⟨s, op, (s.operate op).answer, (s.operate op).state⟩) ⟨rfl, rfl⟩ with
      ⟨hClaims, hNothing⟩ | ⟨index, e, he, hBefore, hClaims, hAfter⟩
    · have hCount : (s.operate op).state.fulfilledCount = s.fulfilledCount :=
        hNothing.fulfilledCount_eq
      rw [hClaims, hCount, List.length_nil, Nat.zero_add]
    · have hAfter : (s.operate op).state = s.claim index := hAfter
      have hCount : (s.claim index).fulfilledCount = s.fulfilledCount + 1 :=
        fulfilledCount_claim he hBefore
      rw [hClaims, hAfter, hCount, List.length_singleton, Nat.add_assoc]

end Session

end ScriptedDb
