import ScriptedDb.Proofs.Json.Tokens
import ScriptedDb.Proofs.Number.Numerals

/-! The digits of a number are read as that number when it fits in 64 bits. A minus sign in front of
zero would make another number, but no integer is written so. -/

namespace ScriptedDb

namespace Numeral

theorem isDigit_of_mem_toDigits {n : Nat} {c : Char} (h : c ∈ Nat.toDigits 10 n) :
    isDigit c = true := by
  have hDigit := Nat.isDigit_of_mem_toDigits (by decide) (by decide) h
  simp only [Char.isDigit, Bool.and_eq_true, decide_eq_true_eq] at hDigit
  simp only [isDigit, Bool.and_eq_true, decide_eq_true_eq]
  exact hDigit

theorem value_toDigits (n : Nat) : value 0 (Nat.toDigits 10 n) = n := by
  have hRead := Nat.ofDigitChars_ten_toDigits (n := n)
  rwa [Nat.ofDigitChars_eq_foldl] at hRead

theorem digitChar_ne_zero : ∀ {n : Nat}, n < 10 → n ≠ 0 → n.digitChar ≠ '0' := by
  decide

/-- Only zero is written with a zero in front. -/
theorem exists_toDigits_eq_cons {n : Nat} (hn : n ≠ 0) :
    ∃ c ds, Nat.toDigits 10 n = c :: ds ∧ c ≠ '0' := by
  induction n using Nat.strongRecOn with
  | ind n ih =>
    by_cases hOne : n < 10
    · refine ⟨n.digitChar, [], Nat.toDigits_of_lt_base hOne, ?_⟩
      exact digitChar_ne_zero hOne hn
    · obtain ⟨c, ds, hDigits, hc⟩ := ih (n / 10) (by omega) (by omega)
      refine ⟨c, ds ++ [(n % 10).digitChar], ?_, hc⟩
      rw [Nat.toDigits_of_base_le (by decide) (by omega), hDigits, List.cons_append]

theorem le_value (start : Nat) (ds : List Char) : start ≤ value start ds := by
  induction ds generalizing start with
  | nil => exact Nat.le_refl start
  | cons c ds ih =>
    calc start ≤ 10 * start + digit c := by omega
      _ ≤ value start (c :: ds) := ih (10 * start + digit c)

end Numeral

namespace Json

open Numeral (value isDigit)

/-- Digits of a number within the limit are all taken. -/
theorem gather_of_value_le {limit : Nat} {ds : List Char} {n : Nat} (h : value n ds ≤ limit) :
    gather limit n ds = (value n ds, ds.length) := by
  induction ds generalizing n with
  | nil => rfl
  | cons c ds ih =>
    have hStep : 10 * n + Numeral.digit c ≤ limit :=
      Nat.le_trans (Numeral.le_value (10 * n + Numeral.digit c) ds) h
    rw [gather, if_pos hStep, ih h]
    rfl

/-- What ends a number is no digit, no point and no exponent. -/
theorem Delimited.head {c : Char} {s : List Char} (h : Delimited (c :: s)) :
    isDigit c = false ∧ c ≠ '.' ∧ isExponentMark c = false := by
  have hEnd := h c rfl
  simp only [isBlank, Bool.or_eq_true, beq_iff_eq] at hEnd
  rcases hEnd with (((rfl | rfl) | rfl) | rfl) | rfl | rfl | rfl <;> decide

/-- Without a point or an exponent a number is an integer. -/
theorem readAfterWhole_of_delimited (negative : Bool) (n : Nat) {s : List Char} (h : Delimited s) :
    readAfterWhole negative n 0 s = .ok (integerOfParts negative n, s) := by
  cases s with
  | nil => rfl
  | cons c r =>
    obtain ⟨_, hPoint, hMark⟩ := h.head
    rw [readAfterWhole]
    · simp [hMark]
    · exact hPoint

/-- No digit follows a number that has ended. -/
theorem Delimited.isDigit_head? {s : List Char} (h : Delimited s) : ∀ c ∈ s.head?, isDigit c = false := by
  cases s with
  | nil => exact fun _ hc => nomatch hc
  | cons c r =>
    rintro c ⟨⟩
    exact h.head.1

/-- The digits of a number that fits in 64 bits are read as the number. -/
theorem readNumber_toDigits (negative : Bool) {n : Nat} (hn : n < Nat.pow 2 64) {rest : List Char}
    (hRest : Delimited rest) :
    readNumber negative (Nat.toDigits 10 n ++ rest) = .ok (integerOfParts negative n, rest) := by
  by_cases hZero : n = 0
  · subst hZero
    rw [Nat.toDigits_zero, List.singleton_append]
    cases rest with
    | nil => rfl
    | cons d r =>
      simp only [readNumber, hRest.head.1]
      exact readAfterWhole_of_delimited negative 0 hRest
  · obtain ⟨c, ds, hDigits, hc⟩ := Numeral.exists_toDigits_eq_cons hZero
    have hAll : ∀ d ∈ c :: ds, isDigit d = true := by
      rw [← hDigits]
      exact fun d => Numeral.isDigit_of_mem_toDigits
    obtain ⟨hTake, hDrop⟩ := Text.span_append hAll hRest.isDigit_head?
    have hGather : gather (Nat.pow 2 64 - 1) 0 (c :: ds) = (n, (c :: ds).length) := by
      have hValue : value 0 (c :: ds) = n := by rw [← hDigits, Numeral.value_toDigits]
      rw [gather_of_value_le (by omega), hValue]
    rw [List.cons_append] at hTake hDrop
    rw [hDigits, List.cons_append]
    simp only [readNumber, if_neg hc, hAll c List.mem_cons_self, if_true, hTake, hDrop, hGather,
      Nat.sub_self]
    exact readAfterWhole_of_delimited negative n hRest

theorem fits_int64 (i : Int64) : Fits i.toInt := by
  have hLow := i.le_toInt
  have hHigh := i.toInt_lt
  constructor
  · simpa using hLow
  · simp
    omega

theorem fits_byte (b : UInt8) : Fits b.toNat := by
  have hByte := b.toNat_lt
  constructor <;> simp; omega

theorem integerText_renderInt (i : Int) : Numeral.IntegerText i (renderInt i) := by
  have hDigits : Numeral.DigitsText i.natAbs (Nat.toDigits 10 i.natAbs) :=
    Numeral.digitsText_iff.mpr ⟨fun c => Numeral.isDigit_of_mem_toDigits, Numeral.value_toDigits i.natAbs⟩
  by_cases hSign : i < 0
  · have hText := Numeral.IntegerText.signed .minus hDigits Nat.toDigits_ne_nil
    rw [if_pos rfl, show -(i.natAbs : Int) = i by omega] at hText
    rwa [renderInt, if_pos hSign]
  · have hText := Numeral.IntegerText.signed .absent hDigits Nat.toDigits_ne_nil
    rw [if_neg Bool.false_ne_true, show (i.natAbs : Int) = i by omega] at hText
    rwa [renderInt, if_neg hSign]

/-- An integer begins with a minus sign or with a digit. -/
theorem exists_renderInt_eq_cons (i : Int) :
    ∃ c ds, renderInt i = c :: ds ∧ (c = '-' ∨ isDigit c = true) := by
  by_cases hSign : i < 0
  · exact ⟨'-', _, if_pos hSign, .inl rfl⟩
  · obtain ⟨c, ds, hDigits⟩ := List.exists_cons_of_ne_nil (Nat.toDigits_ne_nil (b := 10) (n := i.natAbs))
    refine ⟨c, ds, (if_neg hSign).trans hDigits, .inr ?_⟩
    exact Numeral.isDigit_of_mem_toDigits (n := i.natAbs) (by simp [hDigits])

/-- What begins a number is no blank and does not end an array. -/
theorem begins_of_isDigit {c : Char} (h : c = '-' ∨ isDigit c = true) :
    isBlank c = false ∧ c ≠ ']' := by
  rcases h with rfl | h
  · decide
  · constructor
    · rw [← Bool.not_eq_true]
      intro hBlank
      simp only [isBlank, Bool.or_eq_true, beq_iff_eq] at hBlank
      rcases hBlank with ((rfl | rfl) | rfl) | rfl <;> exact absurd h (by decide)
    · rintro rfl
      exact absurd h (by decide)

theorem reads_readAnyNumber (expected : String) {i : Int} (h : Fits i) :
    Reads (readAnyNumber expected) (.integer i) (renderInt i) := by
  obtain ⟨hLow, hHigh⟩ := h
  obtain ⟨c, ds, hText, hc⟩ := exists_renderInt_eq_cons i
  have hBegins := begins_of_isDigit hc
  refine ⟨⟨c, ds, hText, hBegins⟩, fun {before rest} hBefore hRest => ?_⟩
  rw [readAnyNumber, skipBlank_append hBefore, hText, List.cons_append, skipBlank_cons hBegins.1]
  by_cases hSign : i < 0
  · obtain ⟨rfl, rfl⟩ : '-' = c ∧ Nat.toDigits 10 i.natAbs = ds := by
      rw [renderInt, if_pos hSign] at hText
      exact List.cons.inj hText
    have hFits : i.natAbs ≤ Nat.pow 2 63 := by omega
    have hNotZero : ¬(i.natAbs = 0 ∨ Nat.pow 2 63 < i.natAbs) := by omega
    have hValue : integerOfParts true i.natAbs = .integer i := by
      simp only [integerOfParts, Bool.not_true, Bool.false_eq_true, if_false, if_neg hNotZero]
      congr 1
      omega
    simp only [if_true]
    rw [readNumber_toDigits true (Nat.lt_of_le_of_lt hFits (by decide)) hRest, hValue]
  · have hDigits : Nat.toDigits 10 i.natAbs = c :: ds := by
      rwa [renderInt, if_neg hSign] at hText
    have hDigit : isDigit c = true := Numeral.isDigit_of_mem_toDigits (n := i.natAbs) (by simp [hDigits])
    have hNotMinus : c ≠ '-' := by
      rintro rfl
      exact absurd hDigit (by decide)
    have hValue : integerOfParts false i.natAbs = .integer i := by
      simp only [integerOfParts, Bool.not_false, if_true]
      congr 1
      omega
    simp only [if_neg hNotMinus, hDigit, if_true]
    rw [← List.cons_append, ← hDigits, readNumber_toDigits false (by omega) hRest, hValue]

/-- An integer between the bounds of a reader is read by it. -/
theorem reads_readInteger (expected : String) {i low high : Int} (h : Fits i) (hLow : low ≤ i)
    (hHigh : i ≤ high) : Reads (readInteger expected low high) i (renderInt i) where
  begins := (reads_readAnyNumber expected h).begins
  reads {before rest} hBefore hRest := by
    rw [readInteger, (reads_readAnyNumber expected h).reads hBefore hRest]
    simp only [if_pos (And.intro hLow hHigh)]

/-- A document that begins like a number is read as a number. -/
theorem document_eq_readAnyNumber (room : Nat) (expected : String) {s : List Char} {c : Char}
    {r : List Char} (hBegins : skipBlank s = c :: r) (hc : c = '-' ∨ isDigit c = true) :
    document room s = (readAnyNumber expected s).map fun (n, s) => (.number n, s) := by
  have hLetter : c ≠ 'n' ∧ c ≠ 't' ∧ c ≠ 'f' := by
    rcases hc with rfl | hc
    · decide
    · refine ⟨?_, ?_, ?_⟩ <;> (rintro rfl; exact absurd hc (by decide))
  rw [document, readAnyNumber, hBegins]
  simp only [if_neg hLetter.1, if_neg hLetter.2.1, if_neg hLetter.2.2]
  rcases hc with rfl | hc
  · simp
  · have hNotMinus : c ≠ '-' := by
      rintro rfl
      exact absurd hc (by decide)
    simp [hNotMinus, hc]

theorem reads_document_integer (room : Nat) {i : Int} (h : Fits i) :
    Reads (document room) (.number (.integer i)) (renderInt i) where
  begins := (reads_readAnyNumber "number" h).begins
  reads {before rest} hBefore hRest := by
    obtain ⟨c, ds, hText, hc⟩ := exists_renderInt_eq_cons i
    have hBegins : skipBlank (before ++ (renderInt i ++ rest)) = c :: (ds ++ rest) := by
      rw [skipBlank_append hBefore, hText, List.cons_append, skipBlank_cons (begins_of_isDigit hc).1]
    rw [document_eq_readAnyNumber room "number" hBegins hc,
      (reads_readAnyNumber "number" h).reads hBefore hRest]
    rfl

end Json

end ScriptedDb
