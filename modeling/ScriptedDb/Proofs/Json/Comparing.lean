import ScriptedDb.Json.WellFormed
import ScriptedDb.Proofs.Number.NumericValue

/-! Numbers are the only place where a document could differ from itself, and they are no NaNs in
what a text can write. -/

namespace ScriptedDb.Json

theorem Number.same_comm (m n : Number) : m.same n = n.same m := by
  cases m with
  | integer i =>
    cases n with
    | integer j => exact BEq.comm
    | float y => rfl
  | float x =>
    cases n with
    | integer j => rfl
    | float y => exact x.eqv_comm y

mutual

theorem same_comm : ∀ d d' : Json, d.same d' = d'.same d
  | .null, d' => by cases d' <;> rfl
  | .bool b, d' => by
    cases d' with
    | bool b' => rw [same, same, BEq.comm]
    | _ => rfl
  | .number m, d' => by
    cases d' with
    | number n => rw [same, same, Number.same_comm]
    | _ => rfl
  | .string s, d' => by
    cases d' with
    | string t => rw [same, same, BEq.comm]
    | _ => rfl
  | .array xs, d' => by
    cases d' with
    | array ys => rw [same, same, sameItems_comm xs ys]
    | _ => rfl
  | .object ms, d' => by
    cases d' with
    | object ns => rw [same, same, sameMembers_comm ms ns]
    | _ => rfl

theorem sameItems_comm : ∀ xs ys : List Json, sameItems xs ys = sameItems ys xs
  | [], ys => by cases ys <;> rfl
  | _ :: _, [] => rfl
  | x :: xs, y :: ys => by rw [sameItems, sameItems, same_comm x y, sameItems_comm xs ys]

theorem sameMembers_comm : ∀ ms ns : List (String × Json), sameMembers ms ns = sameMembers ns ms
  | [], ns => by cases ns <;> rfl
  | _ :: _, [] => rfl
  | (k, x) :: ms, (l, y) :: ns => by
    rw [sameMembers, sameMembers, BEq.comm (a := k), same_comm x y, sameMembers_comm ms ns]

end

theorem Number.WellFormed.same_self {n : Number} (h : n.WellFormed) : n.same n = true := by
  cases n with
  | integer i => exact BEq.rfl
  | float x =>
    have hNumber : x.isNaN = false := h
    rw [Number.same, Binary64.eqv_self, hNumber]
    rfl

theorem sameItems_self {xs : List Json} (h : ∀ x ∈ xs, x.same x = true) : sameItems xs xs = true := by
  induction xs with
  | nil => rfl
  | cons x xs ih =>
    obtain ⟨hFirst, hOthers⟩ := List.forall_mem_cons.mp h
    rw [sameItems, hFirst, ih hOthers]
    rfl

theorem sameMembers_self {ms : List (String × Json)} (h : ∀ m ∈ ms, m.2.same m.2 = true) :
    sameMembers ms ms = true := by
  induction ms with
  | nil => rfl
  | cons m ms ih =>
    obtain ⟨hFirst, hOthers⟩ := List.forall_mem_cons.mp h
    rw [sameMembers, hFirst, ih hOthers, BEq.rfl]
    rfl

/-- A document that a text can write is the same as itself. -/
theorem WellFormed.same_self {room : Nat} {d : Json} (h : WellFormed room d) : d.same d = true := by
  induction h with
  | null => rfl
  | bool b => rw [same, BEq.rfl]
  | number hn => rw [same, hn.same_self]
  | string s => rw [same, BEq.rfl]
  | array _ ih => exact sameItems_self ih
  | object _ _ ih => exact sameMembers_self ih

end ScriptedDb.Json
