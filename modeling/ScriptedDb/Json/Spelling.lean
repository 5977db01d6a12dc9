import ScriptedDb.Json.Scan

/-! Which texts stand for a string, an array or an object, apart from how a reader finds out and
from how a printer chooses. -/

namespace ScriptedDb.Json

open Text.CodeRanges (hexDigit?)

variable {α : Type}

def Blanks (s : List Char) : Prop :=
  ∀ c ∈ s, isBlank c = true

instance (s : List Char) : Decidable (Blanks s) :=
  List.decidableBAll (fun c => isBlank c = true) s

theorem blanks_nil : Blanks [] :=
  fun _ hc => nomatch hc

/-- Four hexadecimal digits, in either case. -/
inductive HexText : Nat → List Char → Prop where
  | digits {a b c d : Char} {w x y z : Nat} : hexDigit? a = some w → hexDigit? b = some x →
      hexDigit? c = some y → hexDigit? d = some z →
      HexText (((w * 16 + x) * 16 + y) * 16 + z) [a, b, c, d]

inductive CharText : Char → List Char → Prop where
  | verbatim {c : Char} : c ≠ '"' → c ≠ '\\' → 0x20 ≤ c.toNat → CharText c [c]
  | letter {c letter : Char} : letterEscape? letter = some c → CharText c ['\\', letter]
  | unit {c : Char} {digits : List Char} : HexText c.toNat digits →
      CharText c ('\\' :: 'u' :: digits)
  /-- A character past the 16-bit units, as two of them. -/
  | pair {c : Char} {high low : Nat} {digits digits' : List Char} : isHighSurrogate high = true →
      isLowSurrogate low = true → HexText high digits → HexText low digits' →
      c.toNat = 0x10000 + (high - 0xD800) * 0x400 + (low - 0xDC00) →
      CharText c ('\\' :: 'u' :: (digits ++ '\\' :: 'u' :: digits'))

inductive CharsText : List Char → List Char → Prop where
  | nil : CharsText [] []
  | cons {c : Char} {cs text rest : List Char} : CharText c text → CharsText cs rest →
      CharsText (c :: cs) (text ++ rest)

inductive StringText (s : String) : List Char → Prop where
  | quoted {text : List Char} : CharsText s.toList text → StringText s ('"' :: (text ++ ['"']))

/-- A text with blanks around it. -/
inductive Padded (Written : α → List Char → Prop) (x : α) : List Char → Prop where
  | between {before text after : List Char} : Blanks before → Written x text → Blanks after →
      Padded Written x (before ++ (text ++ after))

/-- Items with commas between them. Without items there may be blanks. -/
inductive Listed (Written : α → List Char → Prop) : List α → List Char → Prop where
  | nil {blanks : List Char} : Blanks blanks → Listed Written [] blanks
  | single {x : α} {text : List Char} : Padded Written x text → Listed Written [x] text
  | cons {x y : α} {xs : List α} {text rest : List Char} : Padded Written x text →
      Listed Written (y :: xs) rest → Listed Written (x :: y :: xs) (text ++ ',' :: rest)

inductive ArrayText (Written : α → List Char → Prop) (xs : List α) : List Char → Prop where
  | brackets {text : List Char} : Listed Written xs text →
      ArrayText Written xs ('[' :: (text ++ [']']))

inductive MemberText (key : String) (Written : α → List Char → Prop) (x : α) : List Char → Prop where
  | colon {name before after text : List Char} : StringText key name → Blanks before →
      Blanks after → Written x text →
      MemberText key Written x (name ++ (before ++ ':' :: (after ++ text)))

inductive ObjectText (Written : α → List Char → Prop) (members : List α) : List Char → Prop where
  | braces {text : List Char} : Listed Written members text →
      ObjectText Written members ('\x7b' :: (text ++ ['\x7d']))

variable {β : Type} {Written : α → List Char → Prop} {Written' : β → List Char → Prop} {f : α → β}

/-- A list of items is a list of what the items stand for. -/
theorem Listed.map {xs : List α} {text : List Char} (h : Listed Written xs text)
    (hItem : ∀ x ∈ xs, ∀ t, Written x t → Written' (f x) t) : Listed Written' (xs.map f) text := by
  have hPadded : ∀ {x}, (∀ t, Written x t → Written' (f x) t) →
      ∀ {t}, Padded Written x t → Padded Written' (f x) t := by
    rintro x hx t ⟨hBefore, hText, hAfter⟩
    exact .between hBefore (hx _ hText) hAfter
  induction h with
  | nil hBlanks => exact .nil hBlanks
  | single hFirst => exact .single (hPadded (hItem _ List.mem_cons_self) hFirst)
  | cons hFirst _ ih =>
    have hOthers := ih fun x hx => hItem x (List.mem_cons_of_mem _ hx)
    exact .cons (hPadded (hItem _ List.mem_cons_self) hFirst) hOthers

theorem ArrayText.map {xs : List α} {text : List Char} (h : ArrayText Written xs text)
    (hItem : ∀ x ∈ xs, ∀ t, Written x t → Written' (f x) t) : ArrayText Written' (xs.map f) text := by
  obtain ⟨hItems⟩ := h
  exact .brackets (hItems.map hItem)

/-- An array may be taken to be written otherwise when each of its items may. -/
theorem ArrayText.imp {W : α → List Char → Prop} {xs : List α} {text : List Char}
    (h : ArrayText Written xs text) (hItem : ∀ x ∈ xs, ∀ t, Written x t → W x t) :
    ArrayText W xs text := by
  have hMapped := h.map (f := id) hItem
  rwa [List.map_id] at hMapped

end ScriptedDb.Json
