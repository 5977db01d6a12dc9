import ScriptedDb.Number.Rounding
import ScriptedDb.Proofs.Number.NumericValue

namespace ScriptedDb.Binary64

theorem infiniteMagnitude_lt : infiniteMagnitude < 2 ^ 63 := by
  decide

theorem isNaN_ofParts (negative : Bool) {m : ℕ} (h : m ≤ infiniteMagnitude) :
    (ofParts negative m).isNaN = false := by
  rw [isNaN, magnitude_ofParts negative (h.trans_lt infiniteMagnitude_lt), decide_eq_false_iff_not]
  exact Nat.not_lt.mpr h

theorem isNaN_ofRatio (negative : Bool) (num den : ℕ) : (ofRatio negative num den).isNaN = false := by
  rw [ofRatio]
  split
  · exact isNaN_ofParts negative (Nat.zero_le _)
  · exact isNaN_ofParts negative (Nat.min_le_right _ _)

theorem isNaN_neg (x : Binary64) : x.neg.isNaN = x.isNaN := by
  rw [neg, isNaN, magnitude_ofParts _ x.magnitude_lt, isNaN]

/-- Nothing is rounded where the division has no remainder. -/
theorem roundDiv_of_dvd {num den : ℕ} (h : den ∣ num) : roundDiv num den = num / den := by
  have hRemainder : num % den = 0 := Nat.mod_eq_zero_of_dvd h
  simp only [roundDiv, hRemainder]
  apply if_pos
  rcases Nat.eq_zero_or_pos den with rfl | hPos
  · simp
  · exact .inl hPos

theorem binaryOrder_one {n : ℕ} (hn : n ≠ 0) : binaryOrder n 1 = n.log2 := by
  have hLow : 2 ^ n.log2 ≤ n := Nat.log2_self_le hn
  have hOne : Nat.log2 1 = 0 := by decide
  simp [binaryOrder, hOne, hLow]

/-- An integer that ends in enough zero bits is a mantissa of 53 bits that has been shifted. -/
theorem exists_mantissa {n : ℕ} (hn : n ≠ 0) (h : 2 ^ (n.log2 - 52) ∣ n) :
    ∃ m, n * 2 ^ (52 - n.log2) = m * 2 ^ (n.log2 - 52) ∧ 2 ^ 52 ≤ m ∧ m < 2 ^ 53 ∧
      m * 2 ^ n.log2 = n * 2 ^ 52 := by
  have hLow : 2 ^ n.log2 ≤ n := Nat.log2_self_le hn
  have hHigh : n < 2 ^ (n.log2 + 1) := Nat.lt_log2_self
  generalize n.log2 = k at *
  rcases Nat.le_total k 52 with hk | hk
  · have hShift : 2 ^ k * 2 ^ (52 - k) = 2 ^ 52 := by
      rw [← Nat.pow_add, Nat.add_sub_cancel' hk]
    refine ⟨n * 2 ^ (52 - k), ?_, ?_, ?_, ?_⟩
    · rw [Nat.sub_eq_zero_of_le hk, Nat.pow_zero, Nat.mul_one]
    · calc 2 ^ 52 = 2 ^ k * 2 ^ (52 - k) := hShift.symm
        _ ≤ n * 2 ^ (52 - k) := Nat.mul_le_mul_right _ hLow
    · calc n * 2 ^ (52 - k) < 2 ^ (k + 1) * 2 ^ (52 - k) :=
            Nat.mul_lt_mul_of_pos_right hHigh (Nat.two_pow_pos _)
        _ = 2 ^ 53 := by rw [← Nat.pow_add, show k + 1 + (52 - k) = 53 by omega]
    · rw [Nat.mul_assoc, Nat.mul_comm (2 ^ (52 - k)), hShift]
  · obtain ⟨m, rfl⟩ := h
    have hPos : 0 < 2 ^ (k - 52) := Nat.two_pow_pos _
    have hLowShift : 2 ^ k = 2 ^ (k - 52) * 2 ^ 52 := by
      rw [← Nat.pow_add, Nat.sub_add_cancel hk]
    have hHighShift : 2 ^ (k + 1) = 2 ^ (k - 52) * 2 ^ 53 := by
      rw [← Nat.pow_add, show k - 52 + 53 = k + 1 by omega]
    rw [hLowShift] at hLow
    rw [hHighShift] at hHigh
    refine ⟨m, ?_, Nat.le_of_mul_le_mul_left hLow hPos, Nat.lt_of_mul_lt_mul_left hHigh, ?_⟩
    · rw [Nat.sub_eq_zero_of_le hk, Nat.pow_zero, Nat.mul_one, Nat.mul_comm]
    · rw [hLowShift, ← Nat.mul_assoc, Nat.mul_comm m]

/-- An integer that ends in enough zero bits is rounded to a finite number with just its value. -/
theorem units_ofRatio_one (negative : Bool) {n : ℕ} (h : 2 ^ (n.log2 - 52) ∣ n) (hn : n.log2 ≤ 1023) :
    ∃ magnitude, ofRatio negative n 1 = ofParts negative magnitude ∧
      magnitude < infiniteMagnitude ∧ units magnitude = n * unitsPerOne := by
  by_cases hZero : n = 0
  · subst hZero
    exact ⟨0, by rw [ofRatio, if_pos rfl], by decide, by rw [Nat.zero_mul]; rfl⟩
  · obtain ⟨m, hShift, hLow, hHigh, hUnits⟩ := exists_mantissa hZero h
    have hExponent : max ((n.log2 : ℤ) - 52) (-1074) = (n.log2 : ℤ) - 52 := by omega
    have hRound : roundDiv (n * 2 ^ (52 - n.log2)) (2 ^ (n.log2 - 52)) = m := by
      rw [hShift, roundDiv_of_dvd (Nat.dvd_mul_left _ _), Nat.mul_div_cancel _ (Nat.two_pow_pos _)]
    have hFinite : (n.log2 + 1022) * 2 ^ 52 + m < infiniteMagnitude := by
      simp only [infiniteMagnitude, Nat.pow_eq]
      omega
    refine ⟨(n.log2 + 1022) * 2 ^ 52 + m, ?_, hFinite, ?_⟩
    · rw [ofRatio, if_neg hZero, binaryOrder_one hZero]
      simp only [hExponent, Nat.pow_eq, Nat.one_mul]
      rw [show (-((n.log2 : ℤ) - 52)).toNat = 52 - n.log2 by omega,
        show ((n.log2 : ℤ) - 52).toNat = n.log2 - 52 by omega,
        show ((n.log2 : ℤ) - 52 + 1074).toNat = n.log2 + 1022 by omega, hRound,
        Nat.min_eq_left hFinite.le]
    · rw [units_carry hHigh.le (.inr hLow)]
      exact mul_two_pow_eq hUnits rfl

/-- An integer that ends in enough zero bits is rounded to the finite number with just its value. -/
theorem toRat_ofInt {i : ℤ} (h : 2 ^ (i.natAbs.log2 - 52) ∣ i.natAbs) (hi : i.natAbs.log2 ≤ 1023) :
    (ofInt i).isFinite = true ∧ (ofInt i).toRat = i := by
  obtain ⟨magnitude, hRound, hFinite, hUnits⟩ := units_ofRatio_one (decide (i < 0)) h hi
  have hBound : magnitude < 2 ^ 63 := hFinite.trans infiniteMagnitude_lt
  have hSigned : (ofInt i).signedUnits = i * unitsPerOne := by
    rw [ofInt, hRound, signedUnits, isNegative_ofParts _ hBound, magnitude_ofParts _ hBound, hUnits]
    simp only [decide_eq_true_eq, Nat.cast_mul]
    split
    · rw [← Int.neg_mul]
      congr 1
      omega
    · congr 1
      omega
  constructor
  · rw [ofInt, hRound, isFinite, magnitude_ofParts _ hBound, decide_eq_true_eq]
    exact hFinite
  · rw [toRat_eq, hSigned, Int.cast_mul, Int.cast_natCast,
      mul_div_cancel_right₀ _ (Nat.cast_ne_zero.mpr unitsPerOne_ne_zero)]

/-- Every integer up to `2 ^ 53` has a number with just its value, and is rounded to it. -/
theorem toRat_ofInt_of_le {i : ℤ} (h : i.natAbs ≤ 2 ^ 53) :
    (ofInt i).isFinite = true ∧ (ofInt i).toRat = i := by
  rcases Nat.lt_or_eq_of_le h with hBelow | hTop
  · have hOrder : i.natAbs.log2 ≤ 52 := by
      by_cases hZero : i.natAbs = 0
      · rw [hZero, Nat.log2_zero]
        exact Nat.zero_le 52
      · exact Nat.le_of_lt_succ ((Nat.log2_lt hZero).mpr hBelow)
    apply toRat_ofInt
    · rw [Nat.sub_eq_zero_of_le hOrder]
      exact Nat.one_dvd _
    · omega
  · -- The bound itself has a bit too many for a mantissa, and that bit is zero.
    have hOrder : i.natAbs.log2 = 53 := by rw [hTop, Nat.log2_two_pow]
    apply toRat_ofInt
    · rw [hOrder, hTop]
      exact Nat.pow_dvd_pow 2 (by decide)
    · omega

theorem two_pow_mul_unitsPerOne (k : ℕ) : 2 ^ k * unitsPerOne = 2 ^ (k + 1074) := by
  rw [unitsPerOne, ← pow_add]

/-- The absolute value of a number that stands for an integer, in units of the least positive number. -/
theorem units_of_toRat_eq {x : Binary64} {i : ℤ} (h : x.toRat = i) :
    units x.magnitude = i.natAbs * unitsPerOne := by
  have hSigned : x.signedUnits = i * unitsPerOne := by
    rw [toRat_eq, div_eq_iff (Nat.cast_ne_zero.mpr unitsPerOne_ne_zero)] at h
    exact_mod_cast h
  have hAbs : x.signedUnits.natAbs = units x.magnitude := by
    rw [signedUnits]
    split <;> simp
  rw [← hAbs, hSigned, Int.natAbs_mul, Int.natAbs_natCast]

/-- The mantissa is smaller than `2 ^ 53`, so the exponent has to make up for the rest of an integer. -/
theorem log2_add_lt_of_mul_eq {n m e : ℕ} (hn : n ≠ 0) (hm : m < 2 ^ 53)
    (h : m * 2 ^ e = n * unitsPerOne) : n.log2 + 1074 < 53 + e := by
  apply (Nat.pow_lt_pow_iff_right (by decide : 1 < 2)).mp
  calc 2 ^ (n.log2 + 1074) = 2 ^ n.log2 * unitsPerOne := (two_pow_mul_unitsPerOne _).symm
    _ ≤ n * unitsPerOne := Nat.mul_le_mul_right _ (Nat.log2_self_le hn)
    _ = m * 2 ^ e := h.symm
    _ < 2 ^ 53 * 2 ^ e := Nat.mul_lt_mul_of_pos_right hm (Nat.two_pow_pos e)
    _ = 2 ^ (53 + e) := (Nat.pow_add 2 53 e).symm

/-- An integer that a mantissa of 53 bits stands for ends in zeros where it has more bits. -/
theorem two_pow_dvd_of_mul_eq {n m e : ℕ} (hm : m < 2 ^ 53) (h : m * 2 ^ e = n * unitsPerOne) :
    2 ^ (n.log2 - 52) ∣ n := by
  by_cases hn : n = 0
  · subst hn
    exact Nat.dvd_zero _
  · have hExponent := log2_add_lt_of_mul_eq hn hm h
    rcases Nat.le_total n.log2 52 with hSmall | hLarge
    · rw [Nat.sub_eq_zero_of_le hSmall]
      exact Nat.one_dvd n
    · have hShift : m * 2 ^ (e - 1074) = n := by
        apply Nat.eq_of_mul_eq_mul_right (Nat.pos_of_ne_zero unitsPerOne_ne_zero)
        rw [Nat.mul_assoc, two_pow_mul_unitsPerOne, Nat.sub_add_cancel (by omega), h]
      exact (Nat.pow_dvd_pow 2 (by omega)).trans (Dvd.intro_left m hShift)

/-- An integer is the value of a finite number exactly if at most 53 bits are left when the zeros at its end
have been dropped, and it is not too large. -/
theorem representable_iff {i : ℤ} :
    Representable i ↔ i.natAbs.log2 ≤ 1023 ∧ 2 ^ (i.natAbs.log2 - 52) ∣ i.natAbs := by
  constructor
  · rintro ⟨x, hFinite, hValue⟩
    have hUnits := units_of_toRat_eq hValue
    obtain ⟨e, m, hMagnitude, hm, hNormal⟩ := exists_eq_carry x.magnitude
    rw [hMagnitude, units_carry hm.le hNormal] at hUnits
    refine ⟨?_, two_pow_dvd_of_mul_eq hm hUnits⟩
    by_cases hZero : i.natAbs = 0
    · rw [hZero, Nat.log2_zero]
      exact Nat.zero_le _
    · have hOrder := log2_add_lt_of_mul_eq hZero hm hUnits
      have hBound : e * 2 ^ 52 + m < infiniteMagnitude := by
        rwa [isFinite, decide_eq_true_eq, hMagnitude] at hFinite
      simp only [infiniteMagnitude, Nat.pow_eq] at hBound
      omega
  · rintro ⟨hOrder, hDvd⟩
    exact ⟨ofInt i, toRat_ofInt hDvd hOrder⟩

end ScriptedDb.Binary64
