import ScriptedDb.Proofs.Agreement
import ScriptedDb.Proofs.Json.Comparing
import ScriptedDb.Proofs.Json.Parsed
import ScriptedDb.Proofs.ValueOrder

namespace ScriptedDb

namespace Value

def isNaN : Value → Bool
  | .float x => x.isNaN
  | _ => false

def isMalformed : Value → Bool
  | .json s =>
    match Json.parse s with
    | .ok _ => false
    | .error _ => true
  | _ => false

variable {a b : Value} {s t : String}

theorem isMalformed_iff : a.isMalformed = true ↔ ∃ s f, a = .json s ∧ Json.parse s = .error f := by
  cases a with
  | json s => cases hs : Json.parse s <;> simp [isMalformed, hs]
  | _ => simp [isMalformed]

theorem exists_parse_of_json (h : (json s).isMalformed = false) : ∃ d, Json.parse s = .ok d := by
  cases hs : Json.parse s with
  | ok d => exact ⟨d, rfl⟩
  | error f => simp [isMalformed, hs] at h

/-- Where one text is JSON, the failure of the other one is told whichever comes first. -/
theorem jsonAgrees_comm (h : ¬((json s).isMalformed = true ∧ (json t).isMalformed = true)) :
    jsonAgrees s t = jsonAgrees t s := by
  cases hs : Json.parse s with
  | ok d =>
    cases ht : Json.parse t with
    | ok d' => rw [jsonAgrees_of_parse hs ht, jsonAgrees_of_parse ht hs, d.same_comm d']
    | error f => simp only [jsonAgrees, hs, ht]
  | error f =>
    cases ht : Json.parse t with
    | ok d' => simp only [jsonAgrees, hs, ht]
    | error f' => exact absurd ⟨isMalformed_iff.mpr ⟨s, f, rfl, hs⟩, isMalformed_iff.mpr ⟨t, f', rfl, ht⟩⟩ h

/-- A JSON text agrees with itself, since parsing it twice gives one document. -/
theorem jsonAgrees_self {d : Json} (hs : Json.parse s = .ok d) : jsonAgrees s s = .ok true := by
  rw [jsonAgrees_of_parse hs hs, (Json.wellFormed_of_parse hs).same_self]

theorem jsonAgrees_of_malformed {f : Json.Failure} (hs : Json.parse s = .error f) (t : String) :
    jsonAgrees s t = .error (.invalidJson s f) := by
  rw [jsonAgrees, hs]

/-- The answer does not depend on the order of the values. -/
theorem agreement_comm (h : ¬(a.isMalformed = true ∧ b.isMalformed = true)) :
    agreement a b = agreement b a := by
  cases a with
  | null => cases b <;> rfl
  | text s =>
    cases b with
    | text t => exact congrArg Except.ok BEq.comm
    | _ => rfl
  | integer i =>
    cases b with
    | integer j => exact congrArg Except.ok BEq.comm
    | timestamp t => exact congrArg Except.ok BEq.comm
    | _ => rfl
  | float x =>
    cases b with
    | float y => exact congrArg Except.ok (x.eqv_comm y)
    | _ => rfl
  | boolean c =>
    cases b with
    | boolean c' => exact congrArg Except.ok BEq.comm
    | _ => rfl
  | blob bytes =>
    cases b with
    | blob bytes' => exact congrArg Except.ok BEq.comm
    | _ => rfl
  | timestamp t =>
    cases b with
    | integer i => exact congrArg Except.ok BEq.comm
    | timestamp t' => exact congrArg Except.ok BEq.comm
    | _ => rfl
  | json s =>
    cases b with
    | json t => exact jsonAgrees_comm h
    | _ => rfl

theorem agrees_of_ok {same : Bool} (h : agreement a b = .ok same) : a.agrees b = .ok same :=
  agrees_eq_ok_iff.mpr h

theorem agrees_of_error {reason : Incomparable.Reason} (h : agreement a b = .error reason) :
    a.agrees b = .error ⟨a.typeName, b.typeName, reason⟩ :=
  agrees_eq_error_iff.mpr ⟨reason, h, rfl⟩

/-- Comparing two values in either order gives the same answer, or fails in both orders. The failures name
the two types in opposite orders. They have the same reason, unless both values are JSON and neither text is
JSON: then each failure tells what is wrong with the text that comes first. -/
theorem agrees_symmetric (a b : Value) :
    (∃ same, a.agrees b = .ok same ∧ b.agrees a = .ok same) ∨
      ∃ e e', a.agrees b = .error e ∧ b.agrees a = .error e' ∧
        e'.expected = e.actual ∧ e'.actual = e.expected ∧
        (e'.reason = e.reason ∨
          ∃ s t f f', a = .json s ∧ b = .json t ∧ Json.parse s = .error f ∧ Json.parse t = .error f' ∧
            e.reason = .invalidJson s f ∧ e'.reason = .invalidJson t f') := by
  by_cases hBoth : a.isMalformed = true ∧ b.isMalformed = true
  · obtain ⟨s, f, rfl, hs⟩ := isMalformed_iff.mp hBoth.1
    obtain ⟨t, f', rfl, ht⟩ := isMalformed_iff.mp hBoth.2
    have hForward : (json s).agrees (json t) = .error _ := agrees_of_error (jsonAgrees_of_malformed hs t)
    have hBackward : (json t).agrees (json s) = .error _ := agrees_of_error (jsonAgrees_of_malformed ht s)
    exact .inr ⟨_, _, hForward, hBackward, rfl, rfl, .inr ⟨s, t, f, f', rfl, rfl, hs, ht, rfl, rfl⟩⟩
  · -- Otherwise both orders come to one answer, and only the names of the types are exchanged.
    have hComm : agreement b a = agreement a b := (agreement_comm hBoth).symm
    cases hAnswer : agreement a b with
    | ok same => exact .inl ⟨same, agrees_of_ok hAnswer, agrees_of_ok (hComm.trans hAnswer)⟩
    | error reason =>
      have hForward : a.agrees b = .error _ := agrees_of_error hAnswer
      have hBackward : b.agrees a = .error _ := agrees_of_error (hComm.trans hAnswer)
      exact .inr ⟨_, _, hForward, hBackward, rfl, rfl, .inl rfl⟩

theorem beq_eq_compare (a b : Value) : (a == b) = (compare a b == .eq) := by
  rw [Bool.eq_iff_iff, beq_iff_eq, beq_iff_eq, compare_eq_iff]

/-- A value agrees with itself unless it is a NaN or a JSON value that is not JSON. -/
theorem agreement_self (hNumber : a.isNaN = false) (hJson : a.isMalformed = false) :
    agreement a a = .ok true := by
  cases a with
  | null => rfl
  | float x =>
    have hx : x.isNaN = false := hNumber
    rw [agreement, x.eqv_self, hx]
    rfl
  | json s =>
    obtain ⟨d, hs⟩ := exists_parse_of_json hJson
    exact jsonAgrees_self hs
  | text _ | integer _ | boolean _ | blob _ | timestamp _ => exact congrArg Except.ok BEq.rfl

/-- Two values of one kind agree exactly if they are equal, for the kinds with one way to write a value. -/
theorem agreement_of_typeName_eq (h : a.typeName = b.typeName) (hFloat : a.typeName ≠ "float")
    (hJson : a.typeName ≠ "json") : agreement a b = .ok (a == b) := by
  cases sameKind_of_typeName_eq h with
  | float x y => exact absurd rfl hFloat
  | json s t => exact absurd rfl hJson
  | null | text | integer | boolean | blob | timestamp => rfl

/-- How comparing two values goes with their equality, which is that of the order of values: the same kind
and the same content, floating-point numbers bit by bit. -/
structure CoarsensEquality (a b : Value) : Prop where
  equal : compare a b = .eq → a.isNaN = false → a.isMalformed = false → a.agrees b = .ok true
  /-- A NaN agrees with nothing, itself included. -/
  nan : compare a b = .eq → a.isNaN = true → a.agrees b = .ok false
  /-- A text that is not JSON cannot be compared. -/
  malformed : compare a b = .eq → a.isMalformed = true → ∃ e, a.agrees b = .error e
  /-- Within most kinds agreeing is being equal. -/
  sameKind : a.typeName = b.typeName → a.typeName ≠ "float" → a.typeName ≠ "json" →
    a.agrees b = .ok (compare a b == .eq)
  /-- Floating-point numbers agree when they have the same numeric value, as the two zeros have. -/
  floats : ∀ x y, a = .float x → b = .float y → ∃ same, a.agrees b = .ok same ∧
    (same = true ↔ x.isNaN = false ∧ y.isNaN = false ∧ x.numeric? = y.numeric?)

/-- Comparing values is reflexive and coarser than equality, save for NaNs and for texts that are not
JSON. -/
theorem agreement_coarsens_equality (a b : Value) : CoarsensEquality a b where
  equal hEqual hNumber hJson := by
    cases compare_eq_iff.mp hEqual
    exact agrees_of_ok (agreement_self hNumber hJson)
  nan hEqual hNaN := by
    cases compare_eq_iff.mp hEqual
    cases a with
    | float x =>
      have hx : x.isNaN = true := hNaN
      rw [agrees, agreement, x.eqv_self, hx]
      rfl
    | _ => cases hNaN
  malformed hEqual hMalformed := by
    cases compare_eq_iff.mp hEqual
    obtain ⟨s, f, rfl, hs⟩ := isMalformed_iff.mp hMalformed
    exact ⟨_, agrees_of_error (jsonAgrees_of_malformed hs s)⟩
  sameKind hKind hFloat hJson := by
    rw [← beq_eq_compare]
    exact agrees_of_ok (agreement_of_typeName_eq hKind hFloat hJson)
  floats x y hx hy := by
    subst hx hy
    exact ⟨x.eqv y, rfl, Binary64.eqv_iff⟩

/-- The two zeros agree though the order tells them apart, and a NaN does not agree with itself. -/
theorem agreement_coarsens_equality_floats :
    compare (float ⟨0⟩) (float ⟨0x8000000000000000⟩) ≠ .eq ∧
      (float ⟨0⟩).agrees (float ⟨0x8000000000000000⟩) = .ok true ∧
      (float ⟨0x7ff8000000000000⟩).agrees (float ⟨0x7ff8000000000000⟩) = .ok false := by
  have hZero : Binary64.isInteger ⟨0⟩ 0 = true := by decide +kernel
  have hNegative : Binary64.isInteger ⟨0x8000000000000000⟩ 0 = true := by decide +kernel
  have hValue : Binary64.numeric? ⟨0⟩ = Binary64.numeric? ⟨0x8000000000000000⟩ := by
    rw [Binary64.numeric?_eq_finite_iff.mpr (Binary64.isInteger_iff.mp hZero),
      Binary64.numeric?_eq_finite_iff.mpr (Binary64.isInteger_iff.mp hNegative)]
  obtain ⟨same, hAnswer, hSame⟩ :=
    (agreement_coarsens_equality (float ⟨0⟩) (float ⟨0x8000000000000000⟩)).floats _ _ rfl rfl
  have hTrue : same = true := hSame.mpr ⟨by decide, by decide, hValue⟩
  refine ⟨by decide, ?_, ?_⟩
  · rw [hAnswer, hTrue]
  · exact (agreement_coarsens_equality _ _).nan (compare_eq_iff.mpr rfl) (by decide)

end Value

end ScriptedDb
