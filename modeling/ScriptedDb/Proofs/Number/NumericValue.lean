import Mathlib.Algebra.Order.Ring.Rat
import Mathlib.Order.Monotone.Basic
import Mathlib.Tactic.NormNum
import Mathlib.Tactic.Ring
import ScriptedDb.Number.Exact

/-! Counted in units of the least positive number, absolute values grow with every step of the
magnitude, also where a mantissa of `2 ^ 53` carries into the exponent. -/

namespace ScriptedDb.Binary64

variable {x y : Binary64}

theorem magnitude_lt (x : Binary64) : x.magnitude < 2 ^ 63 :=
  Nat.mod_lt _ (by decide)

theorem toNat_bits (x : Binary64) :
    x.bits.toNat = x.magnitude + if x.isNegative then 2 ^ 63 else 0 := by
  have hBits : x.bits.toNat < 2 ^ 64 := x.bits.toNat_lt
  simp only [magnitude, isNegative, Nat.pow_eq, decide_eq_true_eq]
  split <;> omega

theorem eq_of_magnitude_eq (hSign : x.isNegative = y.isNegative) (h : x.magnitude = y.magnitude) :
    x = y := by
  have hBits : x.bits.toNat = y.bits.toNat := by
    rw [toNat_bits x, toNat_bits y, hSign, h]
  cases x
  cases y
  cases UInt64.toNat_inj.mp hBits
  rfl

theorem toNat_bits_ofParts (negative : Bool) {m : ℕ} (h : m < 2 ^ 63) :
    (ofParts negative m).bits.toNat = m + if negative then 2 ^ 63 else 0 := by
  rw [ofParts, UInt64.toNat_ofNat', Nat.mod_eq_of_lt]
  · simp only [Nat.pow_eq]
  · cases negative <;> simp <;> omega

theorem magnitude_ofParts (negative : Bool) {m : ℕ} (h : m < 2 ^ 63) :
    (ofParts negative m).magnitude = m := by
  rw [magnitude, toNat_bits_ofParts negative h]
  cases negative <;> simp <;> omega

theorem isNegative_ofParts (negative : Bool) {m : ℕ} (h : m < 2 ^ 63) :
    (ofParts negative m).isNegative = negative := by
  rw [isNegative, toNat_bits_ofParts negative h]
  cases negative <;> simp; omega

/-- How often the least positive number `2 ^ -1074` goes into 1. -/
def unitsPerOne : ℕ :=
  2 ^ 1074

theorem unitsPerOne_ne_zero : unitsPerOne ≠ 0 := by
  rw [unitsPerOne]
  exact pow_ne_zero _ two_ne_zero

/-- A mantissa that is scaled from `2 ^ 52` to the units. -/
theorem mul_two_pow_eq {m n k e : ℕ} (h : m * 2 ^ k = n * 2 ^ 52) (he : 52 + e = 1074) :
    m * 2 ^ (k + e) = n * unitsPerOne := by
  rw [unitsPerOne, ← he, Nat.pow_add, Nat.pow_add, ← Nat.mul_assoc, h, Nat.mul_assoc]

/-- The absolute value that a magnitude stands for, in units of the least positive number. -/
def units (magnitude : ℕ) : ℕ :=
  (if magnitude < 2 ^ 52 then magnitude else 2 ^ 52 + magnitude % 2 ^ 52) *
    2 ^ (magnitude / 2 ^ 52 - 1)

/-- A mantissa stands in a magnitude under its exponent. One of `2 ^ 53` carries into the exponent, where
it has the same value. -/
theorem units_carry {e m : ℕ} (hm : m ≤ 2 ^ 53) (h : e = 0 ∨ 2 ^ 52 ≤ m) :
    units (e * 2 ^ 52 + m) = m * 2 ^ e := by
  rcases Nat.lt_or_ge m (2 ^ 52) with hSmall | hNormal
  · have hZero : e = 0 := by omega
    subst hZero
    rw [units, if_pos (by omega), show (0 * 2 ^ 52 + m) / 2 ^ 52 - 1 = 0 by omega, Nat.zero_mul,
      Nat.zero_add]
  · rw [units, if_neg (by omega)]
    rcases Nat.lt_or_ge m (2 ^ 53) with hBelow | hTop
    · rw [show 2 ^ 52 + (e * 2 ^ 52 + m) % 2 ^ 52 = m by omega,
        show (e * 2 ^ 52 + m) / 2 ^ 52 - 1 = e by omega]
    · rw [show 2 ^ 52 + (e * 2 ^ 52 + m) % 2 ^ 52 = 2 ^ 52 by omega,
        show (e * 2 ^ 52 + m) / 2 ^ 52 - 1 = e + 1 by omega, show m = 2 ^ 52 * 2 by omega]
      ring

/-- Every magnitude is a mantissa under an exponent. -/
theorem exists_eq_carry (magnitude : ℕ) :
    ∃ e m, magnitude = e * 2 ^ 52 + m ∧ m < 2 ^ 53 ∧ (e = 0 ∨ 2 ^ 52 ≤ m) := by
  rcases Nat.lt_or_ge magnitude (2 ^ 52) with hSmall | hNormal
  · exact ⟨0, magnitude, by omega, by omega, .inl rfl⟩
  · exact ⟨magnitude / 2 ^ 52 - 1, 2 ^ 52 + magnitude % 2 ^ 52, by omega, by omega, .inr (by omega)⟩

theorem strictMono_units : StrictMono units := by
  apply strictMono_nat_of_lt_succ
  intro magnitude
  obtain ⟨e, m, rfl, hm, hNormal⟩ := exists_eq_carry magnitude
  -- The next mantissa may be `2 ^ 53`, which is why the carry is part of both values.
  rw [Nat.add_assoc, units_carry hm.le hNormal, units_carry (by omega) (by omega)]
  exact Nat.mul_lt_mul_of_pos_right (Nat.lt_succ_self m) (Nat.two_pow_pos e)

theorem units_eq_zero_iff {magnitude : ℕ} : units magnitude = 0 ↔ magnitude = 0 :=
  strictMono_units.injective.eq_iff' rfl

/-- The exact value with its sign, in units of the least positive number. -/
def signedUnits (x : Binary64) : ℤ :=
  if x.isNegative then -(units x.magnitude : ℤ) else units x.magnitude

theorem toRat_eq (x : Binary64) : x.toRat = x.signedUnits / unitsPerOne := by
  have hExponent : x.exponent = ((x.magnitude / 2 ^ 52 - 1 : ℕ) : ℤ) + -(1074 : ℕ) := by
    simp only [exponent, Nat.pow_eq]
    omega
  have hUnits : (units x.magnitude : ℚ) = x.mantissa * 2 ^ (x.magnitude / 2 ^ 52 - 1) := by
    simp only [units, mantissa, Nat.pow_eq, Nat.cast_mul, Nat.cast_pow, Nat.cast_ofNat]
  have hOne : (unitsPerOne : ℚ) = 2 ^ 1074 := by
    rw [unitsPerOne, Nat.cast_pow, Nat.cast_ofNat]
  rw [toRat, hExponent, zpow_add₀ two_ne_zero, zpow_neg, zpow_natCast, zpow_natCast, ← hOne,
    signedUnits]
  split
  · rw [Int.cast_neg, Int.cast_natCast, hUnits]
    ring
  · rw [Int.cast_natCast, hUnits]
    ring

/-- An exact value determines the number that has it, the two zeros apart. -/
theorem toRat_eq_toRat_iff : x.toRat = y.toRat ↔ x = y ∨ x.isZero = true ∧ y.isZero = true := by
  have hUnits : x.toRat = y.toRat ↔ x.signedUnits = y.signedUnits := by
    rw [toRat_eq, toRat_eq, div_left_inj' (Nat.cast_ne_zero.mpr unitsPerOne_ne_zero), Int.cast_inj]
  have hZero : ∀ z : Binary64, z.isZero = true ↔ units z.magnitude = 0 := by
    intro z
    rw [units_eq_zero_iff, isZero, decide_eq_true_eq]
  rw [hUnits, hZero, hZero, signedUnits, signedUnits]
  constructor
  · intro h
    by_cases hSign : x.isNegative = y.isNegative
    · left
      apply eq_of_magnitude_eq hSign
      apply strictMono_units.injective
      rw [hSign] at h
      split at h <;> omega
    · right
      -- The signs differ, so each absolute value is the negative of the other one.
      have hOpposite : (units x.magnitude : ℤ) = -(units y.magnitude : ℤ) := by
        cases hx : x.isNegative <;> cases hy : y.isNegative <;> simp_all
      omega
  · rintro (rfl | ⟨hx, hy⟩)
    · rfl
    · simp [hx, hy]

theorem two_zpow_eq (e : ℤ) : (2 : ℚ) ^ e = 2 ^ e.toNat / 2 ^ (-e).toNat := by
  rw [eq_div_iff (pow_ne_zero _ two_ne_zero), ← zpow_natCast, ← zpow_natCast, ← zpow_add₀ two_ne_zero,
    show e + ((-e).toNat : ℤ) = (e.toNat : ℤ) by omega]

/-- Whether the exact value is an integer can be told by integer arithmetic. -/
theorem isInteger_iff {i : ℤ} : x.isInteger i = true ↔ x.isFinite = true ∧ x.toRat = i := by
  have hDen : ((2 : ℚ) ^ (-x.exponent).toNat) ≠ 0 := pow_ne_zero _ two_ne_zero
  simp only [isInteger, ratio, Nat.pow_eq, Bool.and_eq_true, beq_iff_eq]
  apply and_congr_right
  intro _
  rw [toRat, two_zpow_eq, ← mul_div_assoc, div_eq_iff hDen]
  split
  · rw [neg_one_mul, neg_mul]
    norm_cast
  · rw [one_mul]
    norm_cast

theorem numeric?_eq_none_iff : x.numeric? = none ↔ x.isNaN = true := by
  simp only [numeric?, isFinite, isInfinite, isNaN, decide_eq_true_eq]
  split_ifs with hFinite hInfinite
  · simp
    omega
  · simp [hInfinite]
  · simp
    omega

theorem numeric?_eq_finite_iff {q : ℚ} :
    x.numeric? = some (.finite q) ↔ x.isFinite = true ∧ x.toRat = q := by
  rw [numeric?]
  split_ifs with hFinite hInfinite <;> simp [hFinite]

theorem numeric?_eq_infinite_iff {negative : Bool} :
    x.numeric? = some (.infinite negative) ↔
      x.magnitude = infiniteMagnitude ∧ x.isNegative = negative := by
  simp only [numeric?, isFinite, isInfinite, decide_eq_true_eq]
  split_ifs with hFinite hInfinite
  · simp [hFinite.ne]
  · simp [hInfinite]
  · simp [hInfinite]

/-- Numbers are numerically equal exactly if they are no NaNs and have the same numeric value. -/
theorem eqv_iff :
    x.eqv y = true ↔ x.isNaN = false ∧ y.isNaN = false ∧ x.numeric? = y.numeric? := by
  have hSame : x.eqv y = true ↔ x.isNaN = false ∧ y.isNaN = false ∧
      (x = y ∨ x.isZero = true ∧ y.isZero = true) := by
    simp [eqv, and_assoc]
  have hFinite : ∀ {z : Binary64}, z.isZero = true → z.numeric? = some (.finite z.toRat) := by
    intro z hz
    apply numeric?_eq_finite_iff.mpr
    simp_all [isZero, isFinite, infiniteMagnitude]
  rw [hSame]
  apply and_congr_right
  intro hx
  apply and_congr_right
  intro _
  constructor
  · rintro (rfl | hZero)
    · rfl
    · rw [hFinite hZero.1, hFinite hZero.2, toRat_eq_toRat_iff.mpr (.inr hZero)]
  · intro h
    cases hValue : x.numeric? with
    | none =>
      rw [numeric?_eq_none_iff, hx] at hValue
      cases hValue
    | some value =>
      rw [hValue] at h
      cases value with
      | finite q =>
        have hx := (numeric?_eq_finite_iff.mp hValue).2
        have hy := (numeric?_eq_finite_iff.mp h.symm).2
        exact toRat_eq_toRat_iff.mp (hx.trans hy.symm)
      | infinite negative =>
        -- Sign and magnitude are all there is to an infinity.
        obtain ⟨hx, hxSign⟩ := numeric?_eq_infinite_iff.mp hValue
        obtain ⟨hy, hySign⟩ := numeric?_eq_infinite_iff.mp h.symm
        exact .inl (eq_of_magnitude_eq (hxSign.trans hySign.symm) (hx.trans hy.symm))

theorem eqv_comm (x y : Binary64) : x.eqv y = y.eqv x := by
  rw [Bool.eq_iff_iff, eqv_iff, eqv_iff, eq_comm (a := x.numeric?), and_left_comm]

theorem eqv_self (x : Binary64) : x.eqv x = !x.isNaN := by
  simp [eqv]

end ScriptedDb.Binary64
