import Mathlib.Data.List.Nodup
import ScriptedDb.Json.DocumentLayout

/-! Members in the order of their keys are determined by what is found under each key. -/

namespace ScriptedDb

namespace Json

variable {members others written : List (String × Json)}

theorem lookup_member_cons (m : String × Json) (rest : List (String × Json)) (k : String) :
    (m :: rest).lookup k = if k = m.1 then some m.2 else rest.lookup k := by
  rw [List.lookup_cons]
  by_cases hk : k = m.1
  · simp [hk]
  · simp [hk, beq_eq_false_iff_ne.mpr hk]

/-- An inserted member is found under its key, and the other keys keep their values. -/
theorem lookup_insertMember (key : String) (value : Json) (members : List (String × Json)) (k : String) :
    (insertMember key value members).lookup k = if k = key then some value else members.lookup k := by
  induction members with
  | nil => rw [insertMember, lookup_member_cons]
  | cons m rest ih =>
    rw [insertMember]
    cases hOrder : compare key m.1 with
    | lt => exact lookup_member_cons (key, value) (m :: rest) k
    | eq =>
      cases Std.LawfulEqCmp.eq_of_compare hOrder
      by_cases hk : k = m.1 <;> simp [lookup_member_cons, hk]
    | gt =>
      have hNe : m.1 ≠ key := by
        rintro rfl
        simp at hOrder
      by_cases hk : k = m.1
      · simp [lookup_member_cons, hk, hNe]
      · simp [lookup_member_cons, hk, ih]

/-- Of the members that were inserted under a key the last one counts. -/
theorem lookup_foldl_insertMember (written members : List (String × Json)) (k : String) :
    (written.foldl (fun ms m => insertMember m.1 m.2 ms) members).lookup k =
      (written.reverse.lookup k).or (members.lookup k) := by
  induction written generalizing members with
  | nil => rfl
  | cons m rest ih =>
    rw [List.foldl_cons, ih, lookup_insertMember, List.reverse_cons, List.lookup_append, Option.or_assoc,
      lookup_member_cons m []]
    split <;> rfl

/-- With each key once, what is found under a key is the member with that key. -/
theorem lookup_eq_some_iff_mem (h : (members.map Prod.fst).Nodup) {k : String} {v : Json} :
    members.lookup k = some v ↔ (k, v) ∈ members := by
  induction members with
  | nil => simp
  | cons m rest ih =>
    obtain ⟨l, w⟩ := m
    rw [List.map_cons, List.nodup_cons] at h
    rw [lookup_member_cons]
    by_cases hk : k = l
    · subst hk
      have hAbsent : (k, v) ∉ rest := fun hMem => h.1 (List.mem_map.mpr ⟨_, hMem, rfl⟩)
      simp [hAbsent, eq_comm]
    · simp [hk, ih h.2]

theorem ordered_nil : Ordered [] :=
  List.Pairwise.nil

theorem Ordered.nodup_keys (h : Ordered members) : (members.map Prod.fst).Nodup := by
  rw [List.Nodup, List.pairwise_map]
  refine h.imp fun {m n} hOrder hEq => ?_
  rw [hEq] at hOrder
  simp at hOrder

theorem mem_insertMember {key : String} {value : Json} {m : String × Json}
    (h : m ∈ insertMember key value members) : m = (key, value) ∨ m ∈ members := by
  induction members with
  | nil => simpa [insertMember] using h
  | cons first rest ih =>
    rw [insertMember] at h
    cases hOrder : compare key first.1 with
    | lt => simpa [hOrder] using h
    | eq =>
      rcases (by simpa [hOrder] using h : m = (key, value) ∨ m ∈ rest) with hNew | hOld
      · exact .inl hNew
      · exact .inr (List.mem_cons_of_mem first hOld)
    | gt =>
      rcases (by simpa [hOrder] using h : m = first ∨ m ∈ insertMember key value rest) with rfl | hRest
      · exact .inr List.mem_cons_self
      · exact (ih hRest).imp_right (List.mem_cons_of_mem first)

theorem Ordered.insertMember (h : Ordered members) (key : String) (value : Json) :
    Ordered (insertMember key value members) := by
  induction members with
  | nil => exact List.pairwise_singleton _ _
  | cons first rest ih =>
    obtain ⟨hFirst, hRest⟩ := List.pairwise_cons.mp h
    rw [Json.insertMember]
    cases hOrder : compare key first.1 with
    | lt =>
      refine List.pairwise_cons.mpr ⟨fun m hm => ?_, h⟩
      rcases List.mem_cons.mp hm with rfl | hm
      · exact hOrder
      · exact Std.TransCmp.lt_trans hOrder (hFirst m hm)
    | eq =>
      refine List.pairwise_cons.mpr ⟨fun m hm => ?_, hRest⟩
      rw [Std.LawfulEqCmp.eq_of_compare hOrder]
      exact hFirst m hm
    | gt =>
      refine List.pairwise_cons.mpr ⟨fun m hm => ?_, ih hRest⟩
      rcases mem_insertMember hm with rfl | hm
      · exact Std.OrientedCmp.gt_iff_lt.mp hOrder
      · exact hFirst m hm

theorem Ordered.foldl_insertMember (h : Ordered members) (written : List (String × Json)) :
    Ordered (written.foldl (fun ms m => Json.insertMember m.1 m.2 ms) members) := by
  induction written generalizing members with
  | nil => exact h
  | cons m rest ih => exact ih (h.insertMember m.1 m.2)

/-- Ordered members are the map that they describe: what is found under each key determines them. -/
theorem Ordered.eq_of_lookup (h : Ordered members) (h' : Ordered others)
    (hLookup : ∀ k, members.lookup k = others.lookup k) : members = others := by
  have hPerm : members.Perm others := by
    rw [List.perm_ext_iff_of_nodup (h.nodup_keys.of_map Prod.fst) (h'.nodup_keys.of_map Prod.fst)]
    intro m
    rw [← lookup_eq_some_iff_mem h.nodup_keys, ← lookup_eq_some_iff_mem h'.nodup_keys, hLookup]
  refine hPerm.eq_of_pairwise (fun m n _ _ hLess hGreater => ?_) h h'
  rw [Std.OrientedCmp.gt_iff_lt.mpr hGreater] at hLess
  cases hLess

/-- Members may be inserted in any order. -/
theorem foldl_insertMember_of_perm (hPerm : written.Perm members) (h : Ordered members) :
    written.foldl (fun ms m => insertMember m.1 m.2 ms) [] = members := by
  refine (ordered_nil.foldl_insertMember written).eq_of_lookup h fun k => ?_
  have hReverse : written.reverse.Perm members := (List.reverse_perm written).trans hPerm
  have hKeys : (written.reverse.map Prod.fst).Nodup :=
    (hReverse.map Prod.fst).nodup_iff.mpr h.nodup_keys
  rw [lookup_foldl_insertMember, List.lookup_nil, Option.or_none]
  ext v
  rw [lookup_eq_some_iff_mem hKeys, lookup_eq_some_iff_mem h.nodup_keys, hReverse.mem_iff]

end Json

end ScriptedDb
