import ScriptedDb.Json.Scan
import ScriptedDb.Json.WellFormed
import ScriptedDb.Proofs.Number.Rounding

namespace ScriptedDb.Json

variable {negative : Bool} {significand : Nat} {e : Int} {s rest : List Char} {n : Number}

theorem gather_le {limit start : Nat} (h : start ≤ limit) (ds : List Char) :
    (gather limit start ds).1 ≤ limit := by
  induction ds generalizing start with
  | nil => exact h
  | cons d ds ih =>
    rw [gather]
    split
    · exact ih ‹_›
    · exact h

theorem isNaN_scale {x y : Binary64} (hx : x.isNaN = false) (h : scale x e = some y) :
    y.isNaN = false := by
  fun_induction scale x e with
  | case1 => cases h
  | case2 x e =>
    rw [← Option.some.inj h]
    exact Binary64.isNaN_ofRatio _ _ _
  | case3 x e =>
    rw [← Option.some.inj h]
    exact Binary64.isNaN_ofRatio _ _ _
  | case4 x e =>
    rw [← Option.some.inj h]
    exact hx
  | case5 => cases h
  | case6 x e _ _ _ ih => exact ih (Binary64.isNaN_ofRatio _ _ _) h

theorem wellFormed_zero (negative : Bool) : (Number.float (.ofParts negative 0)).WellFormed :=
  Binary64.isNaN_ofParts negative (Nat.zero_le _)

theorem wellFormed_floatOfParts {s : List Char}
    (h : floatOfParts negative significand e s = .ok (n, rest)) : n.WellFormed := by
  rw [floatOfParts] at h
  split at h
  · cases h
  · next x hx =>
    cases h
    have hNumber : x.isNaN = false := isNaN_scale (Binary64.isNaN_ofRatio _ _ _) hx
    cases negative
    · exact hNumber
    · exact (Binary64.isNaN_neg x).trans hNumber

theorem wellFormed_readExponent (h : readExponent negative significand e s = .ok (n, rest)) :
    n.WellFormed := by
  rw [readExponent] at h
  dsimp only at h
  split at h
  · cases h
  · split at h
    · split at h
      · cases h
      · cases h
        exact wellFormed_zero negative
    · exact wellFormed_floatOfParts h

theorem wellFormed_readFraction (h : readFraction negative significand e s = .ok (n, rest)) :
    n.WellFormed := by
  rw [readFraction] at h
  dsimp only at h
  split at h
  · cases h
  · split at h
    · split at h
      · exact wellFormed_readExponent h
      · exact wellFormed_floatOfParts h
    · exact wellFormed_floatOfParts h

theorem wellFormed_integerOfParts (negative : Bool) {m : Nat} (h : m < Nat.pow 2 64) :
    (integerOfParts negative m).WellFormed := by
  rw [integerOfParts]
  split
  · constructor <;> omega
  · split
    · exact (Binary64.isNaN_neg _).trans (Binary64.isNaN_ofRatio _ _ _)
    · constructor <;> omega

theorem wellFormed_readAfterWhole {extra : Nat} (hFits : significand < Nat.pow 2 64)
    (h : readAfterWhole negative significand extra s = .ok (n, rest)) : n.WellFormed := by
  rw [readAfterWhole.eq_def] at h
  split at h
  · exact wellFormed_readFraction h
  · split at h
    · exact wellFormed_readExponent h
    · split at h
      · cases h
        exact wellFormed_integerOfParts negative hFits
      · exact wellFormed_floatOfParts h
  · split at h
    · cases h
      exact wellFormed_integerOfParts negative hFits
    · exact wellFormed_floatOfParts h

/-- A number that is read is an integer that fits in 64 bits, or it is no NaN. -/
theorem wellFormed_readNumber (h : readNumber negative s = .ok (n, rest)) : n.WellFormed := by
  have hZero : 0 < Nat.pow 2 64 := by decide
  rw [readNumber.eq_def] at h
  split at h
  · cases h
  · split at h
    · split at h
      · split at h
        · cases h
        · exact wellFormed_readAfterWhole hZero h
      · exact wellFormed_readAfterWhole hZero h
    · split at h
      · refine wellFormed_readAfterWhole ?_ h
        exact Nat.lt_of_le_pred hZero (gather_le (Nat.zero_le _) _)
      · cases h

end ScriptedDb.Json
