import ScriptedDb.Proofs.ValueOrder

namespace ScriptedDb

open Std (LawfulEqOrd OrientedCmp TransOrd)

section

variable {α : Type} [Ord α]

def inOrder (a b : α) : Bool :=
  (compare a b).isLE

theorem inOrder_total [TransOrd α] (a b : α) : (inOrder a b || inOrder b a) = true := by
  rw [Bool.or_eq_true, or_iff_not_imp_left]
  intro h
  rw [inOrder, OrientedCmp.lt_of_not_isLE h]
  rfl

theorem inOrder_trans [TransOrd α] (a b c : α) (hab : inOrder a b = true) (hbc : inOrder b c = true) :
    inOrder a c = true :=
  TransOrd.isLE_trans hab hbc

theorem pairwise_mergeSort_inOrder [TransOrd α] (l : List α) :
    (l.mergeSort inOrder).Pairwise fun a b => inOrder a b = true :=
  List.pairwise_mergeSort inOrder_trans inOrder_total l

/-- A list can be put in order in one way only. -/
theorem mergeSort_inOrder_eq_of_perm [TransOrd α] [LawfulEqOrd α] {l l' : List α} (h : l.Perm l') :
    l.mergeSort inOrder = l'.mergeSort inOrder := by
  have hPerm : (l.mergeSort inOrder).Perm (l'.mergeSort inOrder) :=
    ((List.mergeSort_perm l inOrder).trans h).trans (List.mergeSort_perm l' inOrder).symm
  refine hPerm.eq_of_pairwise ?_ (pairwise_mergeSort_inOrder l) (pairwise_mergeSort_inOrder l')
  intro a b _ _ hab hba
  exact LawfulEqOrd.eq_of_compare (OrientedCmp.isLE_antisymm hab hba)

/-- Lists are compared lexicographically. -/
theorem compare_eq_lt_iff_lex [LawfulEqOrd α] {xs ys : List α} :
    compare xs ys = .lt ↔ List.Lex (fun x y => compare x y = .lt) xs ys := by
  induction xs generalizing ys with
  | nil =>
    cases ys with
    | nil => exact ⟨nofun, nofun⟩
    | cons y ys => exact ⟨fun _ => .nil, fun _ => rfl⟩
  | cons x xs ih =>
    cases ys with
    | nil => exact ⟨nofun, nofun⟩
    | cons y ys =>
      rw [List.compare_cons_cons, List.cons_lex_cons_iff, Ordering.then_eq_lt, ih,
        LawfulEqOrd.compare_eq_iff_eq]

end

/-- A comparison that puts all elements in one line, and sorting by it. -/
structure LinearlyOrders {α : Type} (cmp : α → α → Ordering) (sort : List α → List α) : Prop where
  swap : ∀ a b, cmp b a = (cmp a b).swap
  trans : ∀ a b c, (cmp a b).isLE → (cmp b c).isLE → (cmp a c).isLE
  /-- Nothing compares as equal but what is the same. -/
  eq_iff : ∀ a b, cmp a b = .eq ↔ a = b
  sort_perm : ∀ l, (sort l).Perm l
  sort_increasing : ∀ l, (sort l).Pairwise fun a b => (cmp a b).isLE
  /-- The order in which elements are given makes no difference. -/
  sort_eq : ∀ l l', l.Perm l' → sort l = sort l'

theorem linearlyOrders_compare {α : Type} [Ord α] [TransOrd α] [LawfulEqOrd α] :
    LinearlyOrders (compare : α → α → Ordering) (List.mergeSort · inOrder) where
  swap _ _ := OrientedCmp.eq_swap
  trans _ _ _ := TransOrd.isLE_trans
  eq_iff _ _ := LawfulEqOrd.compare_eq_iff_eq
  sort_perm l := List.mergeSort_perm l inOrder
  sort_increasing := pairwise_mergeSort_inOrder
  sort_eq _ _ := mergeSort_inOrder_eq_of_perm

/-- Values and rows are linearly ordered. Nothing compares as equal but the same value, floating-point numbers
bit by bit, and the same row; rows are ordered lexicographically; and all orders of the same values, or of the
same rows, are sorted to the same list. -/
theorem values_and_rows_linearly_ordered :
    LinearlyOrders Value.cmp Value.sort ∧ LinearlyOrders Row.cmp Row.sort ∧
      ∀ a b : Row, Row.cmp a b = .lt ↔ List.Lex (fun x y => Value.cmp x y = .lt) a.values b.values :=
  ⟨linearlyOrders_compare, linearlyOrders_compare, fun _ _ => compare_eq_lt_iff_lex⟩

/-- The two zeros and two NaNs are told apart, so they are sorted alike from either end. -/
theorem values_and_rows_linearly_ordered_zeros :
    let zeros : List Value := [.float ⟨0⟩, .float ⟨0x8000000000000000⟩]
    let nans : List Value := [.float ⟨0x7ff8000000000000⟩, .float ⟨0x7ff8000000000001⟩]
    Value.sort (zeros ++ nans) = Value.sort (zeros ++ nans).reverse ∧
      Row.sort [⟨zeros⟩, ⟨nans⟩] = Row.sort [⟨nans⟩, ⟨zeros⟩] := by
  intro zeros nans
  obtain ⟨hValues, hRows, -⟩ := values_and_rows_linearly_ordered
  exact ⟨hValues.sort_eq _ _ (List.reverse_perm _).symm, hRows.sort_eq _ _ (.swap _ _ _)⟩

end ScriptedDb
