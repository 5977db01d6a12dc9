import Mathlib.Data.List.Induction
import Mathlib.Tactic.SplitIfs
import ScriptedDb.Number.Spelling
import ScriptedDb.Text.SelfDelimiting

/-! Each part of a spelling ends before a character that could not continue it, so a reader parts
the text where the spelling does. -/

namespace ScriptedDb.Numeral

variable {cs ds fraction rest body : List Char} {negative : Bool}

theorem isDigit_digitChar : ∀ {d : Nat}, d < 10 → isDigit d.digitChar = true := by
  decide

theorem digit_digitChar : ∀ {d : Nat}, d < 10 → digit d.digitChar = d := by
  decide

theorem digitChar_eq_ofNat : ∀ {d : Nat}, d < 10 → d.digitChar = Char.ofNat (48 + d) := by
  decide

theorem digitChar_digit {c : Char} (h : isDigit c = true) : digit c < 10 ∧ (digit c).digitChar = c := by
  obtain ⟨hLow, hHigh⟩ : 48 ≤ c.toNat ∧ c.toNat ≤ 57 := by
    simp only [isDigit, Bool.and_eq_true, decide_eq_true_eq] at h
    exact h
  have hDigit : digit c < 10 := by
    rw [digit]
    omega
  refine ⟨hDigit, ?_⟩
  rw [digitChar_eq_ofNat hDigit, digit, Nat.add_sub_cancel' hLow, Char.ofNat_toNat]

theorem value_snoc (n : Nat) (ds : List Char) (c : Char) :
    value n (ds ++ [c]) = 10 * value n ds + digit c :=
  List.foldl_append ..

theorem digitsText_iff {n : Nat} :
    DigitsText n ds ↔ (∀ c ∈ ds, isDigit c = true) ∧ value 0 ds = n := by
  constructor
  · intro h
    induction h with
    | nil => exact ⟨List.forall_mem_nil _, rfl⟩
    | snoc _ hd ih =>
      constructor
      · intro c hc
        rcases List.mem_append.mp hc with hc | hc
        · exact ih.1 c hc
        · rw [List.mem_singleton.mp hc]
          exact isDigit_digitChar hd
      · rw [value_snoc, ih.2, digit_digitChar hd]
  · rintro ⟨hDigits, rfl⟩
    induction ds using List.reverseRecOn with
    | nil => exact .nil
    | append_singleton ds c ih =>
      obtain ⟨hDigit, hChar⟩ := digitChar_digit (hDigits c (by simp))
      have hRest : DigitsText (value 0 ds) ds := ih fun d hd => hDigits d (List.mem_append_left _ hd)
      rw [value_snoc]
      have hSnoc := hRest.snoc hDigit
      rwa [hChar] at hSnoc

/-- The test of the readers for digits. -/
theorem isEmpty_or_not_all_iff :
    (ds.isEmpty || !ds.all isDigit) = true ↔ ¬(ds ≠ [] ∧ ∀ c ∈ ds, isDigit c = true) := by
  simp only [Bool.or_eq_true, List.isEmpty_iff, Bool.not_eq_true', List.all_eq_false, not_and_or,
    not_forall, ne_eq, not_not, exists_prop]

theorem exists_eq_append_of_sign_eq (hParts : sign cs = (negative, body)) :
    ∃ s, SignText negative s ∧ cs = s ++ body := by
  unfold sign at hParts
  split at hParts <;> obtain ⟨rfl, rfl⟩ := Prod.mk.inj hParts
  · exact ⟨['-'], .minus, rfl⟩
  · exact ⟨['+'], .plus, rfl⟩
  · exact ⟨[], .absent, rfl⟩

theorem sign_cons_of_ne {c : Char} (hMinus : c ≠ '-') (hPlus : c ≠ '+') :
    sign (c :: cs) = (false, c :: cs) := by
  unfold sign
  split <;> simp_all

/-- What follows a sign does not begin with another one. -/
theorem sign_append {s : List Char} (h : SignText negative s) (hBody : sign body = (false, body)) :
    sign (s ++ body) = (negative, body) := by
  cases h with
  | absent => exact hBody
  | plus => rfl
  | minus => rfl

theorem sign_digits (h : ∀ c ∈ ds, isDigit c = true) : sign ds = (false, ds) := by
  cases ds with
  | nil => rfl
  | cons c ds =>
    have hc : isDigit c = true := h c List.mem_cons_self
    apply sign_cons_of_ne <;> (rintro rfl; exact absurd hc (by decide))

theorem integerText_iff {i : Int} (hParts : sign cs = (negative, ds)) :
    IntegerText i cs ↔ (ds ≠ [] ∧ ∀ c ∈ ds, isDigit c = true) ∧
      i = if negative then -(value 0 ds : Int) else value 0 ds := by
  constructor
  · intro h
    cases h with
    | signed hSign hDigits hSome =>
      obtain ⟨hAll, rfl⟩ := digitsText_iff.mp hDigits
      rw [sign_append hSign (sign_digits hAll)] at hParts
      obtain ⟨rfl, rfl⟩ := Prod.mk.inj hParts
      exact ⟨⟨hSome, hAll⟩, rfl⟩
  · rintro ⟨⟨hSome, hAll⟩, rfl⟩
    obtain ⟨s, hSign, rfl⟩ := exists_eq_append_of_sign_eq hParts
    exact .signed hSign (digitsText_iff.mpr ⟨hAll, rfl⟩) hSome

theorem int64?_eq_some_iff {i : Int64} : int64? cs = some i ↔ IntegerText i.toInt cs := by
  rcases hParts : sign cs with ⟨negative, ds⟩
  rw [integerText_iff hParts, int64?, hParts]
  by_cases hDigits : ds ≠ [] ∧ ∀ c ∈ ds, isDigit c = true
  · simp only [if_neg (mt isEmpty_or_not_all_iff.mp (not_not.mpr hDigits)), and_iff_right hDigits]
    -- What is left is the range of the number that is written.
    generalize (if negative then -(value 0 ds : Int) else value 0 ds) = n
    constructor
    · intro h
      obtain ⟨hFits, hValue⟩ := Option.ite_none_right_eq_some.mp h
      rw [← Option.some.inj hValue]
      exact Int64.toInt_ofInt_of_le hFits.1 (Int.lt_of_le_sub_one hFits.2)
    · rintro rfl
      rw [if_pos ⟨i.minValue_le_toInt, i.toInt_le⟩, Int64.ofInt_toInt]
  · simp only [if_pos (isEmpty_or_not_all_iff.mpr hDigits), hDigits, false_and, reduceCtorEq]

theorem isSome_exponent?_iff : (exponent? cs).isSome = true ↔ ExponentText cs := by
  cases cs with
  | nil => exact iff_of_true rfl .absent
  | cons c cs =>
    rcases hParts : sign cs with ⟨negative, ds⟩
    rw [exponent?, hParts]
    constructor
    · intro h
      by_cases hMark : c = 'e' ∨ c = 'E'
      · by_cases hDigits : ds ≠ [] ∧ ∀ c ∈ ds, isDigit c = true
        · exact .marked hMark ((integerText_iff hParts).mpr ⟨hDigits, rfl⟩)
        · simp [hMark, isEmpty_or_not_all_iff.mpr hDigits] at h
      · simp [hMark] at h
    · intro h
      cases h with
      | marked hMark hText =>
        have hDigits := ((integerText_iff hParts).mp hText).1
        simp [hMark, mt isEmpty_or_not_all_iff.mp (not_not.mpr hDigits)]

/-- Every text begins with digits, or none, that end before what no digit begins. -/
theorem exists_digits_append (cs : List Char) :
    ∃ ds rest, cs = ds ++ rest ∧ (∀ c ∈ ds, isDigit c = true) ∧
      ∀ c ∈ rest.head?, isDigit c = false := by
  refine ⟨cs.takeWhile isDigit, cs.dropWhile isDigit, List.takeWhile_append_dropWhile.symm, ?_, ?_⟩
  · exact List.all_eq_true.mp List.all_takeWhile
  · intro c hc
    have hHead := List.head?_dropWhile_not isDigit cs
    rwa [hc] at hHead

theorem isSome_map_unless {α β : Type} {p : Prop} [Decidable p] (f : α → β) (o : Option α) :
    (if p then none else o.map f).isSome = true ↔ ¬p ∧ o.isSome = true := by
  split <;> simp [*]

/-- Digits that no point follows are the whole mantissa. -/
theorem isSome_decimal?_whole (hDigits : ∀ c ∈ ds, isDigit c = true)
    (hRest : ∀ c ∈ rest.head?, isDigit c = false ∧ c ≠ '.') :
    (decimal? negative (ds ++ rest)).isSome = true ↔ ds ≠ [] ∧ ExponentText rest := by
  obtain ⟨hTake, hDrop⟩ := Text.span_append hDigits fun c hc => (hRest c hc).1
  rw [← isSome_exponent?_iff]
  cases rest with
  | nil =>
    simp only [decimal?, hTake, hDrop, isSome_map_unless, Bool.and_eq_true, List.isEmpty_iff, and_true,
      ne_eq]
  | cons c rest =>
    have hPoint : c ≠ '.' := (hRest c rfl).2
    simp [decimal?, hTake, hDrop, isSome_map_unless, hPoint]

/-- The digits after a point are a part of the mantissa. -/
theorem isSome_decimal?_pointed (hDigits : ∀ c ∈ ds, isDigit c = true)
    (hFraction : ∀ c ∈ fraction, isDigit c = true) (hRest : ∀ c ∈ rest.head?, isDigit c = false) :
    (decimal? negative (ds ++ '.' :: (fraction ++ rest))).isSome = true ↔
      ds ++ fraction ≠ [] ∧ ExponentText rest := by
  obtain ⟨hTake, hDrop⟩ := Text.span_append hFraction hRest
  have hPoint : ∀ c ∈ ('.' :: (fraction ++ rest)).head?, isDigit c = false := by
    rintro c ⟨⟩
    rfl
  obtain ⟨hTake', hDrop'⟩ := Text.span_append hDigits hPoint
  rw [← isSome_exponent?_iff]
  simp only [decimal?, hTake', hDrop', hTake, hDrop, isSome_map_unless, Bool.and_eq_true,
    List.isEmpty_iff, List.append_eq_nil_iff, ne_eq]

/-- No digit and no point begins an exponent. -/
theorem ExponentText.head (h : ExponentText cs) : ∀ c ∈ cs.head?, isDigit c = false ∧ c ≠ '.' := by
  cases h with
  | absent => exact fun _ hc => nomatch hc
  | marked hMark _ =>
    rintro c ⟨⟩
    rcases hMark with rfl | rfl <;> decide

/-- A numeral without a sign is read if it is a mantissa and an exponent. -/
theorem isSome_decimal?_iff : (decimal? negative cs).isSome = true ↔
    ∃ mantissa exponent, cs = mantissa ++ exponent ∧ MantissaText mantissa ∧ ExponentText exponent := by
  constructor
  · intro h
    obtain ⟨ds, rest, rfl, hDigits, hRest⟩ := exists_digits_append cs
    have hWhole : DigitsText (value 0 ds) ds := digitsText_iff.mpr ⟨hDigits, rfl⟩
    -- The mantissa goes on past a point, and ends at anything else.
    by_cases hPoint : rest.head? = some '.'
    · obtain ⟨after, rfl⟩ := List.head?_eq_some_iff.mp hPoint
      obtain ⟨fraction, tail, rfl, hFraction, hTail⟩ := exists_digits_append after
      obtain ⟨hSome, hExponent⟩ := (isSome_decimal?_pointed hDigits hFraction hTail).mp h
      refine ⟨ds ++ '.' :: fraction, tail, by simp, ?_, hExponent⟩
      exact .pointed hWhole (digitsText_iff.mpr ⟨hFraction, rfl⟩) hSome
    · have hHead : ∀ c ∈ rest.head?, isDigit c = false ∧ c ≠ '.' := by
        intro c hc
        refine ⟨hRest c hc, ?_⟩
        rintro rfl
        exact hPoint hc
      obtain ⟨hSome, hExponent⟩ := (isSome_decimal?_whole hDigits hHead).mp h
      exact ⟨ds, rest, rfl, .whole hWhole hSome, hExponent⟩
  · rintro ⟨mantissa, exponent, rfl, hMantissa, hExponent⟩
    cases hMantissa with
    | whole hDigits hSome =>
      exact (isSome_decimal?_whole (digitsText_iff.mp hDigits).1 hExponent.head).mpr ⟨hSome, hExponent⟩
    | pointed hDigits hFraction hSome =>
      rw [List.append_assoc, List.cons_append]
      exact (isSome_decimal?_pointed (digitsText_iff.mp hDigits).1 (digitsText_iff.mp hFraction).1
        fun c hc => (hExponent.head c hc).1).mpr ⟨hSome, hExponent⟩

/-- A mantissa begins with a digit or with its point. -/
theorem MantissaText.exists_eq_cons (h : MantissaText cs) :
    ∃ c rest, cs = c :: rest ∧ (isDigit c = true ∨ c = '.') := by
  cases h with
  | whole hDigits hSome =>
    obtain ⟨c, ds, rfl⟩ := List.exists_cons_of_ne_nil hSome
    exact ⟨c, ds, rfl, .inl ((digitsText_iff.mp hDigits).1 c List.mem_cons_self)⟩
  | @pointed _ _ ds fraction hDigits _ _ =>
    cases ds with
    | nil => exact ⟨'.', fraction, rfl, .inr rfl⟩
    | cons c ds =>
      exact ⟨c, ds ++ '.' :: fraction, rfl, .inl ((digitsText_iff.mp hDigits).1 c List.mem_cons_self)⟩

/-- A decimal numeral is a sign and what is read as a numeral after it. -/
theorem decimalText_iff (hParts : sign cs = (negative, body)) :
    DecimalText cs ↔ (decimal? negative body).isSome = true := by
  rw [isSome_decimal?_iff]
  constructor
  · intro h
    cases h with
    | @signed _ s mantissa exponent hSign hMantissa hExponent =>
      have hUnsigned : sign (mantissa ++ exponent) = (false, mantissa ++ exponent) := by
        obtain ⟨c, rest, rfl, hc⟩ := hMantissa.exists_eq_cons
        rw [List.cons_append]
        apply sign_cons_of_ne <;> (rintro rfl; exact absurd hc (by decide))
      rw [sign_append hSign hUnsigned] at hParts
      obtain ⟨rfl, rfl⟩ := Prod.mk.inj hParts
      exact ⟨mantissa, exponent, rfl, hMantissa, hExponent⟩
  · rintro ⟨mantissa, exponent, rfl, hMantissa, hExponent⟩
    obtain ⟨s, hSign, rfl⟩ := exists_eq_append_of_sign_eq hParts
    exact .signed hSign hMantissa hExponent

/-- A word is a sign and the letters of the word after it. -/
theorem wordText_iff (hParts : sign cs = (negative, body)) :
    WordText cs ↔ String.ofList (body.map lower) ∈ ["inf", "infinity", "nan"] := by
  constructor
  · intro h
    cases h with
    | @signed _ s word hSign hWord =>
      have hUnsigned : sign word = (false, word) := by
        cases word with
        | nil => rfl
        | cons c word =>
          apply sign_cons_of_ne <;> (rintro rfl; revert hWord; simp [String.ext_iff, lower])
      rw [sign_append hSign hUnsigned] at hParts
      obtain ⟨rfl, rfl⟩ := Prod.mk.inj hParts
      exact hWord
  · intro h
    obtain ⟨s, hSign, rfl⟩ := exists_eq_append_of_sign_eq hParts
    exact .signed hSign h

/-- The texts that are read as floating-point numbers are the decimal numerals and the words for the
infinities and NaN. -/
theorem isSome_float?_iff : (float? cs).isSome = true ↔ DecimalText cs ∨ WordText cs := by
  rcases hParts : sign cs with ⟨negative, body⟩
  rw [float?, hParts, decimalText_iff hParts, wordText_iff hParts]
  simp only [List.mem_cons, List.not_mem_nil, or_false]
  split_ifs with hInfinite hNaN
  · exact iff_of_true rfl (.inr (hInfinite.imp_right .inl))
  · exact iff_of_true rfl (.inr (.inr (.inr hNaN)))
  · refine (or_iff_left ?_).symm
    rw [← or_assoc]
    exact not_or.mpr ⟨hInfinite, hNaN⟩

theorem IntegerText.decimalText {i : Int} (h : IntegerText i cs) : DecimalText cs := by
  cases h with
  | signed hSign hDigits hSome =>
    have hDecimal := DecimalText.signed hSign (.whole hDigits hSome) .absent
    rwa [List.append_nil] at hDecimal

theorem MantissaText.exists_isDigit (h : MantissaText cs) : ∃ c ∈ cs, isDigit c = true := by
  cases h with
  | whole hDigits hSome =>
    obtain ⟨c, hc⟩ := List.exists_mem_of_ne_nil _ hSome
    exact ⟨c, hc, (digitsText_iff.mp hDigits).1 c hc⟩
  | pointed hDigits hFraction hSome =>
    obtain ⟨c, hc⟩ := List.exists_mem_of_ne_nil _ hSome
    rcases List.mem_append.mp hc with hc | hc
    · exact ⟨c, List.mem_append_left _ hc, (digitsText_iff.mp hDigits).1 c hc⟩
    · refine ⟨c, ?_, (digitsText_iff.mp hFraction).1 c hc⟩
      exact List.mem_append_right _ (List.mem_cons_of_mem _ hc)

/-- Without a digit there is no decimal numeral. -/
theorem not_decimalText (hDigitless : ∀ c ∈ cs, isDigit c = false) : ¬DecimalText cs := by
  intro h
  cases h with
  | signed _ hMantissa _ =>
    obtain ⟨c, hc, hDigit⟩ := hMantissa.exists_isDigit
    rw [hDigitless c (List.mem_append_right _ (List.mem_append_left _ hc))] at hDigit
    cases hDigit

end ScriptedDb.Numeral
