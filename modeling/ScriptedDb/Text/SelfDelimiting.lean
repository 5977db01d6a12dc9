/-! Writing that shows its own end, whatever comes after it. A number ends only before a character
that cannot continue it, so the notion has those characters as a parameter. -/

namespace ScriptedDb.Text

variable {α : Type} {P : α → Prop} {continues : Char → Bool} {write : α → List Char}

/-- The text does not begin with a character that could continue what stands before it. -/
def Ends (continues : Char → Bool) (s : List Char) : Prop :=
  ∀ c ∈ s.head?, continues c = false

theorem ends_nil : Ends continues [] :=
  fun _ hc => nomatch hc

theorem ends_cons {c : Char} (h : continues c = false) (s : List Char) : Ends continues (c :: s) := by
  rintro c ⟨⟩
  exact h

/-- Where nothing can continue, any text may follow. -/
theorem ends_of_never (s : List Char) : Ends (fun _ => false) s :=
  fun _ _ => rfl

/-- A run of characters that could continue ends before what ends it. -/
theorem span_append {run rest : List Char} (hRun : ∀ c ∈ run, continues c = true)
    (hRest : Ends continues rest) :
    (run ++ rest).takeWhile continues = run ∧ (run ++ rest).dropWhile continues = rest := by
  rw [List.takeWhile_append_of_pos hRun, List.dropWhile_append_of_pos hRun]
  cases rest with
  | nil => exact ⟨List.append_nil run, rfl⟩
  | cons c rest =>
    have hc : ¬continues c = true := by simp [hRest c rfl]
    rw [List.takeWhile_cons_of_neg hc, List.dropWhile_cons_of_neg hc, List.append_nil]
    exact ⟨rfl, rfl⟩

/-- Two things with the property that are written at the front of the same text are one thing, and the
same text is left after them. -/
def SelfDelimiting (P : α → Prop) (continues : Char → Bool) (write : α → List Char) : Prop :=
  ∀ ⦃x y : α⦄, P x → P y → ∀ ⦃s t : List Char⦄, Ends continues s → Ends continues t →
    write x ++ s = write y ++ t → x = y ∧ s = t

theorem SelfDelimiting.eq_of_write_eq (h : SelfDelimiting P continues write) {x y : α} (hx : P x)
    (hy : P y) (hWrite : write x = write y) : x = y :=
  (h hx hy ends_nil ends_nil (congrArg (· ++ []) hWrite)).1

/-- Things that are written by different runs of the characters that could continue a run. -/
theorem selfDelimiting_of_run (hRun : ∀ x, P x → ∀ c ∈ write x, continues c = true)
    (hInj : ∀ x y, P x → P y → write x = write y → x = y) : SelfDelimiting P continues write := by
  intro x y hx hy s t hs ht hText
  obtain ⟨hTake, hDrop⟩ := span_append (hRun x hx) hs
  obtain ⟨hTake', hDrop'⟩ := span_append (hRun y hy) ht
  have hWrite : write x = write y := by rw [← hTake, ← hTake', hText]
  have hRest : s = t := by rw [← hDrop, ← hDrop', hText]
  exact ⟨hInj x y hx hy hWrite, hRest⟩

/-- What is written begins neither with the closing character of a sequence nor with a character that could
continue what stands before it. -/
def BeginsApart (P : α → Prop) (continues : Char → Bool) (closing : Char) (write : α → List Char) :
    Prop :=
  ∀ x, P x → ∃ c text, write x = c :: text ∧ c ≠ closing ∧ continues c = false

variable {closing : Char}

/-- What follows an item of a sequence, the next one or the closing character, ends the item. -/
theorem ends_sequence (hBegins : BeginsApart P continues closing write)
    (hClosing : continues closing = false) {xs : List α} (hxs : ∀ x ∈ xs, P x) (s : List Char) :
    Ends continues (xs.flatMap write ++ closing :: s) := by
  cases xs with
  | nil => exact ends_cons hClosing s
  | cons x xs =>
    obtain ⟨c, text, hText, -, hc⟩ := hBegins x (hxs x List.mem_cons_self)
    rw [List.flatMap_cons, hText, List.cons_append, List.cons_append]
    exact ends_cons hc _

/-- A sequence with an item does not begin with its closing character. -/
theorem sequence_ne_closing (hBegins : BeginsApart P continues closing write) {x : α} (hx : P x)
    (xs : List α) (s t : List Char) :
    (x :: xs).flatMap write ++ s ≠ closing :: t := by
  obtain ⟨c, text, hText, hc, -⟩ := hBegins x hx
  rw [List.flatMap_cons, hText, List.cons_append, List.cons_append]
  intro hEq
  exact hc (List.cons.inj hEq).1

/-- A sequence up to its closing character shows its own end, whatever follows. -/
theorem SelfDelimiting.sequence (h : SelfDelimiting P continues write)
    (hBegins : BeginsApart P continues closing write) (hClosing : continues closing = false) :
    SelfDelimiting (fun xs : List α => ∀ x ∈ xs, P x) (fun _ => false)
      (fun xs => xs.flatMap write ++ [closing]) := by
  intro xs ys hxs hys s t _ _ hText
  simp only [List.append_assoc, List.singleton_append] at hText
  induction xs generalizing ys with
  | nil =>
    cases ys with
    | nil => exact ⟨rfl, (List.cons.inj hText).2⟩
    | cons y ys =>
      exact absurd hText.symm
        (sequence_ne_closing hBegins (hys y List.mem_cons_self) ys (closing :: t) s)
  | cons x xs ih =>
    cases ys with
    | nil =>
      exact absurd hText
        (sequence_ne_closing hBegins (hxs x List.mem_cons_self) xs (closing :: s) t)
    | cons y ys =>
      rw [List.forall_mem_cons] at hxs hys
      rw [List.flatMap_cons, List.flatMap_cons, List.append_assoc, List.append_assoc] at hText
      obtain ⟨rfl, hRest⟩ := h hxs.1 hys.1 (ends_sequence hBegins hClosing hxs.2 s)
        (ends_sequence hBegins hClosing hys.2 t) hText
      obtain ⟨rfl, hTail⟩ := ih hxs.2 hys.2 hRest
      exact ⟨rfl, hTail⟩

end ScriptedDb.Text
