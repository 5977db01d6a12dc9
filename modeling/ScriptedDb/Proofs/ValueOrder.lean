import ScriptedDb.Proofs.Number.NumericValue
import ScriptedDb.Value.Order

/-! Across kinds ranks only go up, and two values of one rank have no value of another rank between
them, so the orders of the kinds make up one linear order. -/

namespace ScriptedDb

open Std (LawfulEqOrd OrientedOrd ReflOrd TransCmp TransOrd)

/-- The keys of the total order tell numbers apart by their bits. -/
theorem Binary64.orderKey_inj {x y : Binary64} : x.orderKey = y.orderKey ↔ x = y := by
  constructor
  · intro h
    simp only [orderKey] at h
    have hSign : x.isNegative = y.isNegative := by
      cases hx : x.isNegative <;> cases hy : y.isNegative <;> simp_all <;> omega
    apply eq_of_magnitude_eq hSign
    split at h <;> simp_all
  · rintro rfl
    rfl

theorem Binary64.totalCompare_eq_iff {x y : Binary64} : x.totalCompare y = .eq ↔ x = y := by
  rw [totalCompare, compare_eq_iff_eq, orderKey_inj]

instance : Ord Binary64 := ⟨Binary64.totalCompare⟩

instance : TransOrd Binary64 :=
  inferInstanceAs (TransCmp (compareOn Binary64.orderKey))

namespace Value

/-- Values compare as equal exactly if they are the same value. -/
theorem compare_eq_iff {a b : Value} : compare a b = .eq ↔ a = b := by
  change cmp a b = .eq ↔ a = b
  cases a <;> cases b <;> simp [cmp, rank, Binary64.totalCompare_eq_iff]

/-- Two values of one kind. -/
inductive SameKind : Value → Value → Prop where
  | null : SameKind .null .null
  | boolean (a b : Bool) : SameKind (.boolean a) (.boolean b)
  | integer (a b : Int64) : SameKind (.integer a) (.integer b)
  | timestamp (a b : Int64) : SameKind (.timestamp a) (.timestamp b)
  | float (a b : Binary64) : SameKind (.float a) (.float b)
  | text (a b : String) : SameKind (.text a) (.text b)
  | json (a b : String) : SameKind (.json a) (.json b)
  | blob (a b : List UInt8) : SameKind (.blob a) (.blob b)

variable {a b c : Value}

theorem sameKind_of_rank_eq (h : a.rank = b.rank) : SameKind a b := by
  cases a <;> cases b <;> cases h <;> constructor

theorem sameKind_of_typeName_eq (h : a.typeName = b.typeName) : SameKind a b := by
  apply sameKind_of_rank_eq
  cases a <;> cases b <;> simp_all [typeName, rank]

theorem cmp_of_rank_ne (h : a.rank ≠ b.rank) : cmp a b = compare a.rank b.rank := by
  unfold cmp
  split
  case h_8 => rfl
  all_goals exact absurd rfl h

/-- Among values of one kind the contents decide. -/
theorem SameKind.cmp_swap (h : SameKind a b) : cmp a b = (cmp b a).swap := by
  cases h with
  | null => rfl
  | boolean | integer | timestamp | float | text | json | blob => exact OrientedOrd.eq_swap

theorem SameKind.isLE_trans (hab : SameKind a b) (hbc : SameKind b c) (h : (cmp a b).isLE)
    (h' : (cmp b c).isLE) : (cmp a c).isLE := by
  cases hab with
  | null => exact h'
  | boolean | integer | timestamp | float | text | json | blob =>
    cases hbc
    exact TransOrd.isLE_trans h h'

theorem cmp_swap (a b : Value) : cmp a b = (cmp b a).swap := by
  by_cases h : a.rank = b.rank
  · exact (sameKind_of_rank_eq h).cmp_swap
  · rw [cmp_of_rank_ne h, cmp_of_rank_ne (Ne.symm h)]
    exact OrientedOrd.eq_swap

theorem rank_le_of_isLE (h : (cmp a b).isLE) : a.rank ≤ b.rank := by
  by_cases hRank : a.rank = b.rank
  · exact Nat.le_of_eq hRank
  · rwa [cmp_of_rank_ne hRank, Nat.isLE_compare] at h

theorem cmp_isLE_trans (hab : (cmp a b).isLE) (hbc : (cmp b c).isLE) : (cmp a c).isLE := by
  have hRank := rank_le_of_isLE hab
  have hRank' := rank_le_of_isLE hbc
  by_cases h : a.rank = c.rank
  · -- Ranks only go up, so the value between has the same rank.
    have hSame : SameKind a b := sameKind_of_rank_eq (by omega)
    have hSame' : SameKind b c := sameKind_of_rank_eq (by omega)
    exact hSame.isLE_trans hSame' hab hbc
  · rw [cmp_of_rank_ne h, Nat.isLE_compare]
    exact Nat.le_trans hRank hRank'

instance : TransOrd Value where
  eq_swap := cmp_swap _ _
  isLE_trans := cmp_isLE_trans

instance : LawfulEqOrd Value where
  compare_self := compare_eq_iff.mpr rfl
  eq_of_compare := compare_eq_iff.mp

end Value

instance : TransOrd Row :=
  inferInstanceAs (TransCmp (compareOn Row.values))

instance : LawfulEqOrd Row where
  compare_self {a} := show compare a.values a.values = .eq from ReflOrd.compare_self
  eq_of_compare {a b} h := by
    cases a
    cases b
    exact congrArg Row.mk (LawfulEqOrd.eq_of_compare h)

end ScriptedDb
