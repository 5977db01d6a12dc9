import ScriptedDb.Proofs.Number.Numerals
import ScriptedDb.Rows.Csv

namespace ScriptedDb.Csv

open Numeral

variable {cs : List Char}

def nullCell : List Char :=
  ['N', 'U', 'L', 'L']

/-- A value that has the kind of a cell by how it is spelled. -/
structure HasKindOf (v : Value) (cs : List Char) : Prop where
  null : v = .null ↔ cs = nullCell
  integer (i : Int64) : v = .integer i ↔ IntegerText i.toInt cs
  float : (∃ x, v = .float x) ↔ (DecimalText cs ∨ WordText cs) ∧ ∀ i : Int64, ¬IntegerText i.toInt cs
  text (s : String) : v = .text s ↔ s.toList = cs ∧ cs ≠ nullCell ∧ ¬DecimalText cs ∧ ¬WordText cs
  digitless : (∀ c ∈ cs, isDigit c = false) → cs ≠ nullCell → ¬WordText cs → v = .text (String.ofList cs)

theorem cell_eq_null_iff : cell cs = .null ↔ cs = nullCell := by
  fun_cases cell cs with
  | case1 h => exact iff_of_true rfl h
  | case2 h => exact iff_of_false nofun h
  | case3 h => exact iff_of_false nofun h
  | case4 h => exact iff_of_false nofun h

theorem cell_eq_integer_iff {i : Int64} : cell cs = .integer i ↔ IntegerText i.toInt cs := by
  rw [← int64?_eq_some_iff]
  fun_cases cell cs with
  | case1 h =>
    subst h
    exact iff_of_false nofun nofun
  | case2 _ j hInteger => rw [hInteger, Value.integer.injEq, Option.some.injEq]
  | case3 _ hInteger => exact iff_of_false nofun (by simp [hInteger])
  | case4 _ hInteger => exact iff_of_false nofun (by simp [hInteger])

theorem exists_cell_eq_float_iff : (∃ x, cell cs = .float x) ↔
    (DecimalText cs ∨ WordText cs) ∧ ∀ i : Int64, ¬IntegerText i.toInt cs := by
  simp only [← isSome_float?_iff, ← int64?_eq_some_iff]
  fun_cases cell cs with
  | case1 h =>
    subst h
    exact iff_of_false nofun nofun
  | case2 _ i hInteger => exact iff_of_false nofun fun h => h.2 i hInteger
  | case3 _ hInteger x hFloat => simp [hInteger, hFloat]
  | case4 _ hInteger hFloat => simp [hFloat]

theorem cell_eq_text_iff {s : String} : cell cs = .text s ↔
    s.toList = cs ∧ cs ≠ nullCell ∧ ¬DecimalText cs ∧ ¬WordText cs := by
  rw [← not_or, ← isSome_float?_iff]
  fun_cases cell cs with
  | case1 h => exact iff_of_false nofun fun hText => hText.2.1 h
  | case2 _ i hInteger =>
    have hFloat : (float? cs).isSome = true :=
      isSome_float?_iff.mpr (.inl (int64?_eq_some_iff.mp hInteger).decimalText)
    exact iff_of_false nofun fun hText => hText.2.2 hFloat
  | case3 _ _ x hFloat => exact iff_of_false nofun fun hText => hText.2.2 (by rw [hFloat]; rfl)
  | case4 hNull _ hFloat =>
    have hRest : cs ≠ nullCell ∧ ¬(float? cs).isSome = true := ⟨hNull, by simp [hFloat]⟩
    rw [Value.text.injEq, and_iff_left hRest]
    constructor
    · rintro rfl
      exact String.toList_ofList
    · rintro rfl
      exact String.ofList_toList

/-- Every cell has the kind that follows from how it is spelled. -/
theorem cell_hasKindOf (cs : List Char) : HasKindOf (cell cs) cs where
  null := cell_eq_null_iff
  integer _ := cell_eq_integer_iff
  float := exists_cell_eq_float_iff
  text _ := cell_eq_text_iff
  digitless hDigitless hNull hWord :=
    cell_eq_text_iff.mpr ⟨String.toList_ofList, hNull, not_decimalText hDigitless, hWord⟩

-- One past the greatest integer is a floating-point number. An exponent without digits makes a text, and so
-- does a point alone.
example : cell "+07".toList = .integer 7 ∧ (cell "9223372036854775808".toList).typeName = "float" ∧
    (cell "-.5E+1".toList).typeName = "float" ∧ cell "1e".toList = .text "1e" ∧ cell ".".toList = .text "." := by
  decide

/-- Words for the infinities and NaN are no texts, although they have no digit. -/
theorem digitless_cell_not_text :
    (∀ c ∈ "nan".toList, isDigit c = false) ∧ "nan".toList ≠ nullCell ∧ ¬DecimalText "nan".toList ∧
      ∃ x : Binary64, x.isNaN = true ∧ cell "nan".toList = .float x := by
  have hDigitless : ∀ c ∈ "nan".toList, isDigit c = false := by simp [isDigit]
  exact ⟨hDigitless, by decide, not_decimalText hDigitless, _, by decide, rfl⟩

end ScriptedDb.Csv
