import Mathlib.Data.List.TakeWhile
import ScriptedDb.Json.Spelling
import ScriptedDb.Json.Typed

/-! `Json.Reads` says of a reader, a value and one way to write it that the reader takes what was
written and leaves the rest, which may be anything that cannot continue a number. -/

namespace ScriptedDb

namespace Json

open Text.CodeRanges (hexDigit?)

variable {α : Type}

theorem skipBlank_append {blanks : List Char} (h : Blanks blanks) (s : List Char) :
    skipBlank (blanks ++ s) = skipBlank s := by
  rw [skipBlank, List.dropWhile_append_of_pos h, skipBlank]

theorem skipBlank_cons {c : Char} (h : isBlank c = false) (s : List Char) :
    skipBlank (c :: s) = c :: s := by
  rw [skipBlank, List.dropWhile_cons_of_neg (by simp [h])]

/-- A text that cannot continue a number: it is empty, or begins with a blank or with a comma or a
bracket after a value. -/
def Delimited (s : List Char) : Prop :=
  ∀ c ∈ s.head?, isBlank c = true ∨ c = ',' ∨ c = ']' ∨ c = '\x7d'

/-- A text that begins with something other than a blank, and not with the end of an array. -/
def StartsItem (text : List Char) : Prop :=
  ∃ c rest, text = c :: rest ∧ isBlank c = false ∧ c ≠ ']'

theorem StartsItem.append {text : List Char} (h : StartsItem text) (s : List Char) :
    StartsItem (text ++ s) := by
  obtain ⟨c, rest, rfl, hc⟩ := h
  exact ⟨c, rest ++ s, rfl, hc⟩

/-- The blanks before an item are skipped, and no more. -/
theorem StartsItem.skipBlank_append {text before : List Char} (h : StartsItem text)
    (hBefore : Blanks before) : skipBlank (before ++ text) = text := by
  obtain ⟨c, rest, rfl, hc, _⟩ := h
  rw [Json.skipBlank_append hBefore, skipBlank_cons hc]

/-- The reader takes the text for the value, after any blanks and before any text that cannot continue
a number. -/
structure Reads (reader : List Char → Scanned α) (x : α) (text : List Char) : Prop where
  begins : StartsItem text
  reads {before rest : List Char} : Blanks before → Delimited rest →
    reader (before ++ (text ++ rest)) = .ok (x, rest)

theorem Reads.map {β : Type} {reader : List Char → Scanned α} {reader' : List Char → Scanned β} {x : α}
    {text : List Char} (h : Reads reader x text) (f : α → β)
    (hReader : ∀ s, reader' s = (reader s).map fun (y, rest) => (f y, rest)) :
    Reads reader' (f x) text where
  begins := h.begins
  reads hBefore hRest := by rw [hReader, h.reads hBefore hRest]; rfl

theorem hexUnit_of_hexText {n : Nat} {digits : List Char} (h : HexText n digits) (rest : List Char) :
    hexUnit (digits ++ rest) = .ok n := by
  cases h with
  | digits ha hb hc hd => simp [hexUnit, ha, hb, hc, hd]

theorem length_of_hexText {n : Nat} {digits : List Char} (h : HexText n digits) :
    digits.length = 4 := by
  cases h
  rfl

theorem drop_of_hexText {n : Nat} {digits : List Char} (h : HexText n digits) (rest : List Char) :
    (digits ++ rest).drop 4 = rest := by
  rw [← length_of_hexText h, List.drop_left]

/-- No character is a surrogate. -/
theorem not_surrogate (c : Char) : isHighSurrogate c.toNat = false ∧ isLowSurrogate c.toNat = false := by
  have hValid := c.valid
  simp only [UInt32.isValidChar, Nat.isValidChar] at hValid
  have hNat : c.toNat = c.val.toNat := rfl
  simp only [isHighSurrogate, isLowSurrogate, hNat, Bool.and_eq_false_iff, decide_eq_false_iff_not]
  omega

theorem unicodeEscape_unit {c : Char} {digits : List Char} (h : HexText c.toNat digits)
    (rest : List Char) : unicodeEscape (digits ++ rest) = .ok (c, 5) := by
  obtain ⟨hHigh, hLow⟩ := not_surrogate c
  simp [unicodeEscape, hexUnit_of_hexText h, hHigh, hLow, Char.ofNat_toNat]

theorem unicodeEscape_pair {c : Char} {high low : Nat} {digits digits' : List Char}
    (hHigh : isHighSurrogate high = true) (hLow : isLowSurrogate low = true)
    (hDigits : HexText high digits) (hDigits' : HexText low digits')
    (hChar : c.toNat = 0x10000 + (high - 0xD800) * 0x400 + (low - 0xDC00)) (rest : List Char) :
    unicodeEscape (digits ++ ('\\' :: 'u' :: (digits' ++ rest))) = .ok (c, 11) := by
  have hNotLow : isLowSurrogate high = false := by
    simp only [isHighSurrogate, isLowSurrogate, Bool.and_eq_true, decide_eq_true_eq,
      Bool.and_eq_false_iff, decide_eq_false_iff_not] at hHigh ⊢
    omega
  simp [unicodeEscape, hexUnit_of_hexText hDigits, hNotLow, hHigh, drop_of_hexText hDigits,
    lowSurrogate, hexUnit_of_hexText hDigits', hLow, ← hChar, Char.ofNat_toNat]

theorem readString_backslash {c : Char} {rest cs tail : List Char} (escape : List Char)
    (hEscape : readEscape (escape ++ rest) = .ok (c, escape.length))
    (hRest : readString rest = .ok (cs, tail)) :
    readString ('\\' :: (escape ++ rest)) = .ok (c :: cs, tail) := by
  rw [readString]
  simp [hEscape, hRest]

/-- A character of a string is read, however it is written. -/
theorem readString_charText {c : Char} {text : List Char} (h : CharText c text)
    {rest cs tail : List Char} (hRest : readString rest = .ok (cs, tail)) :
    readString (text ++ rest) = .ok (c :: cs, tail) := by
  cases h with
  | verbatim hQuote hBackslash hControl =>
    rw [List.singleton_append, readString, if_neg hQuote, if_neg hBackslash,
      if_neg (Nat.not_lt.mpr hControl), hRest]
  | @letter letter hLetter =>
    refine readString_backslash [letter] ?_ hRest
    have hNotUnit : letter ≠ 'u' := by
      rintro rfl
      cases hLetter
    rw [List.singleton_append, readEscape]
    · simp only [hLetter]
      rfl
    · exact hNotUnit
  | @unit digits hDigits =>
    refine readString_backslash ('u' :: digits) ?_ hRest
    rw [List.cons_append, readEscape, unicodeEscape_unit hDigits, List.length_cons,
      length_of_hexText hDigits]
  | @pair high low digits digits' hHigh hLow hDigits hDigits' hChar =>
    refine readString_backslash ('u' :: (digits ++ '\\' :: 'u' :: digits')) ?_ hRest
    rw [List.cons_append, readEscape, List.append_assoc, List.cons_append, List.cons_append,
      unicodeEscape_pair hHigh hLow hDigits hDigits' hChar]
    simp [length_of_hexText hDigits, length_of_hexText hDigits']

theorem readString_charsText {cs text : List Char} (h : CharsText cs text) (rest : List Char) :
    readString (text ++ '"' :: rest) = .ok (cs, rest) := by
  induction h with
  | nil =>
    rw [List.nil_append, readString, if_pos rfl]
  | cons hChar _ ih =>
    rw [List.append_assoc]
    exact readString_charText hChar ih

theorem StringText.startsItem {s : String} {text : List Char} (h : StringText s text) :
    StartsItem text := by
  cases h
  exact ⟨'"', _, rfl, by decide, by decide⟩

/-- A string is read whatever follows it. -/
theorem readText_stringText {s : String} {text before : List Char} (h : StringText s text)
    (hBefore : Blanks before) (expected : String) (rest : List Char) :
    readText expected (before ++ (text ++ rest)) = .ok (s, rest) := by
  cases h with
  | @quoted text hChars =>
    rw [readText, skipBlank_append hBefore, List.cons_append, skipBlank_cons (by decide),
      List.append_assoc, List.singleton_append]
    simp [readString_charsText hChars, Except.map]

theorem reads_readText {s : String} {text : List Char} (h : StringText s text) (expected : String) :
    Reads (readText expected) s text :=
  ⟨h.startsItem, fun {_ rest} hBefore _ => readText_stringText h hBefore expected rest⟩

theorem reads_document_string {s : String} {text : List Char} (h : StringText s text) (room : Nat) :
    Reads (document room) (.string s) text := by
  cases h with
  | @quoted text hChars =>
    refine ⟨⟨'"', _, rfl, by decide, by decide⟩, fun {before rest} hBefore _ => ?_⟩
    rw [document, skipBlank_append hBefore, List.cons_append, skipBlank_cons (by decide),
      List.append_assoc, List.singleton_append]
    simp [readString_charsText hChars, Except.map, Numeral.isDigit]

theorem word_append (letters rest : List Char) : word letters (letters ++ rest) = .ok rest := by
  induction letters with
  | nil => rfl
  | cons c letters ih => rw [List.cons_append, word, if_pos rfl, ih]

theorem constant_append (letters : List Char) (x : α) (rest : List Char) :
    constant letters x (letters ++ rest) = .ok (x, rest) := by
  rw [constant, word_append]

/-- A reader that takes a word for a value where the word's first letter stands. -/
theorem reads_constant {reader : List Char → Scanned α} {first : Char} {letters : List Char} {x : α}
    (hFirst : isBlank first = false ∧ first ≠ ']')
    (hReader : ∀ s r, skipBlank s = first :: r → reader s = constant letters x r) :
    Reads reader x (first :: letters) where
  begins := ⟨first, letters, rfl, hFirst⟩
  reads {before rest} hBefore _ := by
    rw [hReader _ (letters ++ rest), constant_append]
    rw [skipBlank_append hBefore, List.cons_append, skipBlank_cons hFirst.1]

theorem reads_document_null (room : Nat) : Reads (document room) .null null.render :=
  reads_constant (by decide) fun s r h => by rw [document, h]; rfl

theorem reads_document_bool (room : Nat) (b : Bool) :
    Reads (document room) (.bool b) (bool b).render := by
  cases b with
  | true => exact reads_constant (by decide) fun s r h => by rw [document, h]; rfl
  | false => exact reads_constant (by decide) fun s r h => by rw [document, h]; rfl

theorem reads_readBool (b : Bool) : Reads readBool b (bool b).render := by
  cases b with
  | true => exact reads_constant (by decide) fun s r h => by rw [readBool, h]; rfl
  | false => exact reads_constant (by decide) fun s r h => by rw [readBool, h]; rfl

end Json

end ScriptedDb
