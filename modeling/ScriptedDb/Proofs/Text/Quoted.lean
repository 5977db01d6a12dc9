import Mathlib.Tactic.SplitIfs
import ScriptedDb.Text.Quoted
import ScriptedDb.Text.SelfDelimiting

/-! The first characters of an escape tell its form, no form begins with a quote, and braces hold
digits only; so the quote that closes a text is found. -/

namespace ScriptedDb.Text

theorem digitChar_inj : ∀ {d : Nat}, d < 16 → ∀ {d' : Nat}, d' < 16 →
    d.digitChar = d'.digitChar → d = d' := by
  decide

theorem exists_digitChar_of_mem_toDigits {b n : Nat} (hb : 1 < b) {c : Char}
    (hc : c ∈ Nat.toDigits b n) : ∃ d < b, c = d.digitChar := by
  induction n using Nat.strongRecOn with
  | ind n ih =>
    by_cases hSmall : n < b
    · rw [Nat.toDigits_of_lt_base hSmall, List.mem_singleton] at hc
      exact ⟨n, hSmall, hc⟩
    · rw [Nat.toDigits_of_base_le hb (Nat.le_of_not_lt hSmall), List.mem_append,
        List.mem_singleton] at hc
      rcases hc with hc | hc
      · exact ih (n / b) (Nat.div_lt_self (by omega) hb) hc
      · exact ⟨n % b, Nat.mod_lt n (by omega), hc⟩

/-- Different numbers have different digits in a base that there are digits for. -/
theorem toDigits_inj {b : Nat} (hb : 1 < b) (hBase : b ≤ 16) {m n : Nat}
    (h : Nat.toDigits b m = Nat.toDigits b n) : m = n := by
  induction m using Nat.strongRecOn generalizing n with
  | ind m ih =>
    have hDigit : ∀ {d d' : Nat}, d < b → d' < b → d.digitChar = d'.digitChar → d = d' :=
      fun hd hd' => digitChar_inj (by omega) (by omega)
    -- Both numbers have one digit, or both have a last digit and others before it.
    by_cases hm : m < b <;> by_cases hn : n < b
    · rw [Nat.toDigits_of_lt_base hm, Nat.toDigits_of_lt_base hn, List.singleton_inj] at h
      exact hDigit hm hn h
    · rw [Nat.toDigits_of_lt_base hm, Nat.toDigits_of_base_le hb (by omega)] at h
      exact absurd (List.append_eq_singleton_iff.mp h.symm) (by simp [Nat.toDigits_ne_nil])
    · rw [Nat.toDigits_of_lt_base hn, Nat.toDigits_of_base_le hb (by omega)] at h
      exact absurd (List.append_eq_singleton_iff.mp h) (by simp [Nat.toDigits_ne_nil])
    · have hPositive : 0 < m := by omega
      rw [Nat.toDigits_of_base_le hb (Nat.le_of_not_lt hm),
        Nat.toDigits_of_base_le hb (Nat.le_of_not_lt hn)] at h
      obtain ⟨hFront, hLast⟩ := List.append_inj' h rfl
      have hDiv : m / b = n / b := ih (m / b) (Nat.div_lt_self hPositive hb) hFront
      have hMod : m % b = n % b :=
        hDigit (Nat.mod_lt m (by omega)) (Nat.mod_lt n (by omega)) (List.singleton_inj.mp hLast)
      rw [← Nat.div_add_mod m b, ← Nat.div_add_mod n b, hDiv, hMod]

/-- The code point of a character in hexadecimal ends at the brace after it. -/
theorem selfDelimiting_codePoint :
    SelfDelimiting (fun _ => True) (· != '\x7d') (fun c : Char => Nat.toDigits 16 c.toNat) := by
  apply selfDelimiting_of_run
  · intro c _ d hd
    obtain ⟨n, hn, rfl⟩ := exists_digitChar_of_mem_toDigits (by decide) hd
    have hBrace : ∀ n < 16, (n.digitChar != '\x7d') = true := by decide
    exact hBrace n hn
  · intro c d _ _ h
    exact Char.toNat_inj.mp (toDigits_inj (by decide) (by decide) h)

def letterEscape? : Char → Option Char
  | '"' => some '"'
  | '\\' => some '\\'
  | 'n' => some '\n'
  | 'r' => some '\r'
  | 't' => some '\t'
  | '0' => some '\x00'
  | _ => none

/-- The forms in which a character is written between quotes. -/
inductive EscapeText : Char → List Char → Prop where
  | verbatim {c : Char} : c ≠ '"' → c ≠ '\\' → EscapeText c [c]
  | letter {c letter : Char} : letterEscape? letter = some c → EscapeText c ['\\', letter]
  | codePoint (c : Char) :
      EscapeText c (['\\', 'u', '\x7b'] ++ Nat.toDigits 16 c.toNat ++ ['\x7d'])

theorem escapeText_escape (c : Char) : EscapeText c (escape c) := by
  unfold escape
  split_ifs with hQuote hBackslash hNewline hReturn hTab hNull hHidden
  · subst hQuote
    exact .letter rfl
  · subst hBackslash
    exact .letter rfl
  · subst hNewline
    exact .letter rfl
  · subst hReturn
    exact .letter rfl
  · subst hTab
    exact .letter rfl
  · subst hNull
    exact .letter rfl
  · exact .codePoint c
  · exact .verbatim hQuote hBackslash

/-- No form begins with a quote. -/
theorem EscapeText.exists_eq_cons {c : Char} {text : List Char} (h : EscapeText c text) :
    ∃ first rest, text = first :: rest ∧ first ≠ '"' := by
  cases h with
  | verbatim hQuote _ => exact ⟨c, [], rfl, hQuote⟩
  | letter _ => exact ⟨'\\', _, rfl, by decide⟩
  | codePoint => exact ⟨'\\', _, rfl, by decide⟩

/-- What a character is written as shows which character it is, and its end. -/
theorem EscapeText.append_inj {c d : Char} {a b s t : List Char} (hc : EscapeText c a)
    (hd : EscapeText d b) (hText : a ++ s = b ++ t) : c = d ∧ s = t := by
  -- A backslash sets the first form apart, and the letter after it the second one from the third.
  cases hc with
  | verbatim _ hBackslash =>
    cases hd with
    | verbatim => exact List.cons.inj hText
    | letter | codePoint => exact absurd (List.cons.inj hText).1 hBackslash
  | letter hLetter =>
    cases hd with
    | verbatim _ hBackslash => exact absurd (List.cons.inj hText).1.symm hBackslash
    | letter hLetter' =>
      simp only [List.cons_append, List.nil_append, List.cons.injEq, true_and] at hText
      obtain ⟨rfl, rfl⟩ := hText
      exact ⟨Option.some.inj (hLetter.symm.trans hLetter'), rfl⟩
    | codePoint =>
      simp only [List.cons_append, List.nil_append, List.cons.injEq, true_and] at hText
      obtain ⟨rfl, -⟩ := hText
      cases hLetter
  | codePoint =>
    cases hd with
    | verbatim _ hBackslash => exact absurd (List.cons.inj hText).1.symm hBackslash
    | letter hLetter =>
      simp only [List.cons_append, List.nil_append, List.cons.injEq, true_and] at hText
      obtain ⟨rfl, -⟩ := hText
      cases hLetter
    | codePoint =>
      simp only [List.cons_append, List.nil_append, List.append_assoc, List.cons.injEq, true_and] at hText
      obtain ⟨rfl, hRest⟩ := selfDelimiting_codePoint trivial trivial (ends_cons (by decide) s)
        (ends_cons (by decide) t) hText
      exact ⟨rfl, (List.cons.inj hRest).2⟩

/-- A quoted text shows its own end and the text, whatever follows. -/
theorem selfDelimiting_quoted :
    SelfDelimiting (fun _ => True) (fun _ => false) (fun s : String => (quoted s).toList) := by
  have hEscape : SelfDelimiting (fun _ => True) (fun _ => false) escape :=
    fun c d _ _ _ _ _ _ hText => (escapeText_escape c).append_inj (escapeText_escape d) hText
  have hBegins : BeginsApart (fun _ => True) (fun _ => false) '"' escape := by
    intro c _
    obtain ⟨first, rest, hForm, hFirst⟩ := (escapeText_escape c).exists_eq_cons
    exact ⟨first, rest, hForm, hFirst, rfl⟩
  intro u v _ _ s t hs ht hText
  simp only [quoted, String.toList_ofList, List.cons_append, List.cons.injEq, true_and] at hText
  obtain ⟨hList, hRest⟩ := hEscape.sequence hBegins rfl (fun _ _ => trivial) (fun _ _ => trivial)
    hs ht hText
  exact ⟨String.toList_inj.mp hList, hRest⟩

end ScriptedDb.Text
