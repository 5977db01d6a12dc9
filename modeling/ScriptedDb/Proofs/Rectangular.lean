import ScriptedDb.Rows.Basic

namespace ScriptedDb

namespace Rows

/-- Every row has one value for every column. -/
def Rectangular (r : Rows) : Prop :=
  ∀ row ∈ r.rows, row.values.length = r.columns.length

instance (r : Rows) : Decidable r.Rectangular :=
  List.decidableBAll (fun row : Row => row.values.length = r.columns.length) r.rows

/-- The row at an index is the first that has not one value for every column. -/
structure FirstRagged (r : Rows) (index : Nat) (row : Row) : Prop where
  getElem? : r.rows[index]? = some row
  ragged : row.values.length ≠ r.columns.length
  first : ∀ row ∈ r.rows.take index, row.values.length = r.columns.length

theorem raggedRow?_cases (columns start : Nat) (rows : List Row) :
    ((∀ row ∈ rows, row.values.length = columns) ∧ raggedRow? columns start rows = none) ∨
      ∃ index row, rows[index]? = some row ∧ row.values.length ≠ columns ∧
        (∀ row ∈ rows.take index, row.values.length = columns) ∧
        raggedRow? columns start rows =
          some (.raggedRow (start + index) row.values.length columns) := by
  induction rows generalizing start with
  | nil => exact .inl ⟨by simp, rfl⟩
  | cons row rows ih =>
    by_cases hRow : row.values.length = columns
    · rw [raggedRow?, if_pos hRow]
      rcases ih (start + 1) with ⟨hRest, hNone⟩ | ⟨index, row', hAt, hRagged, hFirst, hSome⟩
      · exact .inl ⟨List.forall_mem_cons.mpr ⟨hRow, hRest⟩, hNone⟩
      · refine .inr ⟨index + 1, row', hAt, hRagged, ?_, ?_⟩
        · rw [List.take_succ_cons]
          exact List.forall_mem_cons.mpr ⟨hRow, hFirst⟩
        · rw [hSome, Nat.add_assoc, Nat.add_comm 1]
    · exact .inr ⟨0, row, rfl, hRow, by simp, by rw [raggedRow?, if_neg hRow, Nat.add_zero]⟩

/-- Rows are delivered as they are, or refused for their first ragged row. -/
theorem validated_cases (r : Rows) :
    (r.Rectangular ∧ r.validated = .ok r) ∨
      ∃ index row, r.FirstRagged index row ∧
        r.validated = .error (.fixture (.raggedRow index row.values.length r.columns.length)) := by
  rcases raggedRow?_cases r.columns.length 0 r.rows with
    ⟨hAll, hNone⟩ | ⟨index, row, hAt, hRagged, hFirst, hSome⟩
  · exact .inl ⟨hAll, by simp only [validated, validate, hNone]⟩
  · rw [Nat.zero_add] at hSome
    exact .inr ⟨index, row, ⟨hAt, hRagged, hFirst⟩, by simp only [validated, validate, hSome]⟩

theorem validated_of_rectangular {r : Rows} (h : r.Rectangular) : r.validated = .ok r := by
  rcases r.validated_cases with ⟨-, hValid⟩ | ⟨index, row, hFirst, -⟩
  · exact hValid
  · exact absurd (h row (List.mem_of_getElem? hFirst.getElem?)) hFirst.ragged

end Rows

end ScriptedDb
