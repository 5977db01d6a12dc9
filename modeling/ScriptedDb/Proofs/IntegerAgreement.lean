import ScriptedDb.Proofs.Number.Rounding
import ScriptedDb.Value.Agreement

namespace ScriptedDb

/-- Up to `2 ^ 53` the number for an integer equals just what has the value of the integer. -/
theorem Binary64.eqv_ofInt_iff {i : ℤ} (h : i.natAbs ≤ 2 ^ 53) (x : Binary64) :
    (ofInt i).eqv x = true ↔ x.isFinite = true ∧ x.toRat = i := by
  have hValue : (ofInt i).numeric? = some (.finite i) :=
    numeric?_eq_finite_iff.mpr (toRat_ofInt_of_le h)
  have hNumber : (ofInt i).isNaN = false := isNaN_ofRatio _ _ _
  rw [eqv_iff, hValue, eq_comm (a := some _), numeric?_eq_finite_iff]
  constructor
  · rintro ⟨-, -, hx⟩
    exact hx
  · intro hx
    refine ⟨hNumber, ?_, hx⟩
    rw [← Bool.not_eq_true, ← numeric?_eq_none_iff, numeric?_eq_finite_iff.mpr hx]
    exact Option.some_ne_none _

namespace Value

variable {i : Int64} {x : Binary64}

theorem integerAgrees_of_le (h : i.toInt.natAbs ≤ 2 ^ 53) :
    integerAgrees i x = .ok ((Binary64.ofInt i.toInt).eqv x) :=
  if_neg (Nat.not_lt.mpr h)

/-- An integer is compared with a floating-point number only up to `2 ^ 53`. -/
theorem le_of_integerAgrees {same : Bool} (h : integerAgrees i x = .ok same) :
    i.toInt.natAbs ≤ 2 ^ 53 := by
  rw [integerAgrees] at h
  split at h
  · cases h
  · next hBound => exact Nat.not_lt.mp hBound

theorem agrees_integer_float_iff {same : Bool} :
    (integer i).agrees (float x) = .ok same ↔ integerAgrees i x = .ok same :=
  agrees_eq_ok_iff

theorem agrees_float_integer_iff {same : Bool} :
    (float x).agrees (integer i) = .ok same ↔ integerAgrees i x = .ok same :=
  agrees_eq_ok_iff

/-- An integer up to `2 ^ 53` is compared with every floating-point number, in either order. Whenever an
integer and a floating-point number are compared, they agree exactly if the number is finite and its exact
value is the integer: no NaN and no infinity agrees, and nothing does through rounding. -/
theorem integer_float_agree_exactly (i : Int64) (x : Binary64) :
    (i.toInt.natAbs ≤ 2 ^ 53 → ∃ same, (integer i).agrees (float x) = .ok same ∧
      (float x).agrees (integer i) = .ok same) ∧
      ∀ same, (integer i).agrees (float x) = .ok same ∨ (float x).agrees (integer i) = .ok same →
        (same = true ↔ x.isFinite = true ∧ x.toRat = i.toInt) := by
  simp only [agrees_integer_float_iff, agrees_float_integer_iff, and_self, or_self]
  constructor
  · intro h
    exact ⟨_, integerAgrees_of_le h⟩
  · intro same h
    -- There was an answer, so the integer is within the bound and was converted without rounding.
    have hBound := le_of_integerAgrees h
    rw [integerAgrees_of_le hBound] at h
    cases h
    exact Binary64.eqv_ofInt_iff hBound x

/-- At the bound `2 ^ 53` an integer agrees with its own number, the integer below it does not, and zero
agrees with `-0.0`. -/
theorem integer_float_agree_exactly_at_bound :
    (integer 9007199254740992).agrees (float ⟨0x4340000000000000⟩) = .ok true ∧
      (float ⟨0x4340000000000000⟩).agrees (integer 9007199254740991) = .ok false ∧
      (integer 0).agrees (float ⟨0x8000000000000000⟩) = .ok true := by
  have hMatch : ∀ (i : Int64) (x : Binary64), i.toInt.natAbs ≤ 2 ^ 53 → x.isInteger i.toInt = true →
      (integer i).agrees (float x) = .ok true := by
    intro i x hBound hValue
    obtain ⟨hAnswers, hExact⟩ := integer_float_agree_exactly i x
    obtain ⟨same, hForward, -⟩ := hAnswers hBound
    have hSame : same = true := (hExact same (.inl hForward)).mpr (Binary64.isInteger_iff.mp hValue)
    rw [hForward, hSame]
  have hBelow : (float ⟨0x4340000000000000⟩).agrees (integer 9007199254740991) = .ok false := by
    obtain ⟨hAnswers, hExact⟩ := integer_float_agree_exactly 9007199254740991 ⟨0x4340000000000000⟩
    obtain ⟨same, -, hBackward⟩ := hAnswers (by decide)
    have hSame : same ≠ true := by
      intro hTrue
      have hValue := Binary64.isInteger_iff.mpr ((hExact same (.inr hBackward)).mp hTrue)
      exact absurd hValue (by decide +kernel)
    rw [hBackward, Bool.eq_false_iff.mpr hSame]
  exact ⟨hMatch _ _ (by decide) (by decide +kernel), hBelow,
    hMatch _ _ (by decide) (by decide +kernel)⟩

theorem integerAgrees_eq_error_iff {reason : Incomparable.Reason} :
    integerAgrees i x = .error reason ↔ reason = .inexactInteger i ∧ 2 ^ 53 < i.toInt.natAbs := by
  rcases Nat.lt_or_ge (2 ^ 53) i.toInt.natAbs with hPast | hWithin
  · have hRefused : integerAgrees i x = .error (.inexactInteger i) := if_pos hPast
    rw [hRefused, Except.error.injEq, eq_comm, and_iff_left hPast]
  · rw [integerAgrees_of_le hWithin]
    exact ⟨nofun, fun hPast => absurd hPast.2 (Nat.not_lt.mpr hWithin)⟩

/-- Values that are compared as an integer with a floating-point number are refused past the bound. -/
theorem agrees_eq_inexact_iff {a b : Value} (h : agreement a b = integerAgrees i x) {e : Incomparable} :
    a.agrees b = .error e ↔
      e = ⟨a.typeName, b.typeName, .inexactInteger i⟩ ∧ 2 ^ 53 < i.toInt.natAbs := by
  simp only [agrees_eq_error_iff, h, integerAgrees_eq_error_iff]
  constructor
  · rintro ⟨_, ⟨rfl, hPast⟩, hError⟩
    exact ⟨hError, hPast⟩
  · rintro ⟨hError, hPast⟩
    exact ⟨_, ⟨rfl, hPast⟩, hError⟩

/-- The integers that no floating-point number stands for lie past `2 ^ 53`, and end in too few zero bits for
a mantissa. -/
theorem not_representable_iff (i : Int64) :
    ¬Binary64.Representable i.toInt ↔
      2 ^ 53 < i.toInt.natAbs ∧ ¬2 ^ (i.toInt.natAbs.log2 - 52) ∣ i.toInt.natAbs := by
  have hRange : i.toInt.natAbs < 2 ^ 64 := by
    have hLow := i.le_toInt
    have hHigh := i.toInt_lt
    omega
  have hOrder : i.toInt.natAbs.log2 ≤ 1023 := by
    by_cases hZero : i.toInt.natAbs = 0
    · rw [hZero, Nat.log2_zero]
      exact Nat.zero_le _
    · have hBits := (Nat.log2_lt hZero).mpr hRange
      omega
  constructor
  · intro hNone
    refine ⟨Nat.lt_of_not_le fun hWithin => hNone ⟨_, Binary64.toRat_ofInt_of_le hWithin⟩, fun hZeros => ?_⟩
    exact hNone (Binary64.representable_iff.mpr ⟨hOrder, hZeros⟩)
  · rintro ⟨-, hBits⟩ hSome
    exact hBits (Binary64.representable_iff.mp hSome).2

/-- Comparing an integer with a floating-point number fails, in either order, exactly past `2 ^ 53`, and only
with the error that the integer has no exact number. That is true of the integers past the bound that end in
too few zero bits for a mantissa, and of no others. -/
theorem integer_float_refused_iff (i : Int64) (x : Binary64) :
    (∀ e, (integer i).agrees (float x) = .error e ↔
      e = ⟨"integer", "float", .inexactInteger i⟩ ∧ 2 ^ 53 < i.toInt.natAbs) ∧
    (∀ e, (float x).agrees (integer i) = .error e ↔
      e = ⟨"float", "integer", .inexactInteger i⟩ ∧ 2 ^ 53 < i.toInt.natAbs) ∧
    (Incomparable.Reason.inexactInteger i).message =
      s!"integer {i.toInt} has no exact float representation" ∧
    (¬Binary64.Representable i.toInt ↔
      2 ^ 53 < i.toInt.natAbs ∧ ¬2 ^ (i.toInt.natAbs.log2 - 52) ∣ i.toInt.natAbs) := by
  refine ⟨fun e => ?_, fun e => ?_, rfl, not_representable_iff i⟩
  · exact agrees_eq_inexact_iff rfl
  · exact agrees_eq_inexact_iff rfl

/-- The integer `2 ^ 53 + 2` has a floating-point number of its own, and is refused as if it had none. -/
theorem representable_integer_refused :
    Binary64.Representable (9007199254740994 : Int64).toInt ∧
      (integer 9007199254740994).agrees (float ⟨0x4340000000000001⟩) =
        .error ⟨"integer", "float", .inexactInteger 9007199254740994⟩ := by
  have hValue : Binary64.isInteger ⟨0x4340000000000001⟩ (9007199254740994 : Int64).toInt = true := by
    decide +kernel
  refine ⟨⟨_, Binary64.isInteger_iff.mp hValue⟩, ?_⟩
  exact (agrees_eq_inexact_iff rfl).mpr ⟨rfl, by decide⟩

end Value

end ScriptedDb
