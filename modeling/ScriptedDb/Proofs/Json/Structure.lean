import ScriptedDb.Proofs.Json.Tokens

/-! After a comma the loops are where they would be before the first item, so the induction over the
written items needs one form of the loop only. -/

namespace ScriptedDb

namespace Json

variable {α β σ : Type} {W : α → List Char → Prop}

theorem delimited_cons {c : Char} (h : c = ',' ∨ c = ']' ∨ c = '\x7d') (s : List Char) :
    Delimited (c :: s) := by
  intro d hd
  cases hd
  exact .inr h

/-- Blanks end a number as well as what follows them does. -/
theorem Delimited.append {blanks s : List Char} (hBlanks : Blanks blanks) (h : Delimited s) :
    Delimited (blanks ++ s) := by
  cases blanks with
  | nil => exact h
  | cons c blanks =>
    intro d hd
    cases hd
    exact .inl (hBlanks c List.mem_cons_self)

theorem delimited_blanks {blanks : List Char} (h : Blanks blanks) : Delimited blanks := by
  have hEnd := Delimited.append h (s := []) (fun _ hc => nomatch hc)
  rwa [List.append_nil] at hEnd

/-- The text of the items begins with the first one, blanks apart. -/
theorem Listed.first {x : α} {xs : List α} {text : List Char} (h : Listed W (x :: xs) text)
    (rest : List Char) :
    ∃ before t s, text ++ rest = before ++ (t ++ s) ∧ Blanks before ∧ W x t := by
  cases h with
  | single hItem =>
    obtain ⟨hBefore, hText, _⟩ := hItem
    exact ⟨_, _, _, by rw [List.append_assoc, List.append_assoc], hBefore, hText⟩
  | cons hItem _ =>
    obtain ⟨hBefore, hText, _⟩ := hItem
    exact ⟨_, _, _, by rw [List.append_assoc, List.append_assoc, List.append_assoc], hBefore, hText⟩

/-- No item is written without a character. -/
theorem Listed.length_le {xs : List α} {text : List Char} (h : Listed W xs text)
    (hText : ∀ x ∈ xs, ∀ t, W x t → StartsItem t) : xs.length ≤ text.length := by
  have hPadded : ∀ {x : α}, (∀ t, W x t → StartsItem t) → ∀ {t}, Padded W x t → 1 ≤ t.length := by
    rintro x hx t ⟨_, hItem, _⟩
    obtain ⟨c, r, rfl, _⟩ := hx _ hItem
    simp only [List.length_append, List.length_cons]
    omega
  induction h with
  | nil _ => exact Nat.zero_le _
  | single hItem => exact hPadded (hText _ List.mem_cons_self) hItem
  | cons hItem _ ih =>
    have hFirst := hPadded (hText _ List.mem_cons_self) hItem
    have hOthers := ih fun x hx => hText x (List.mem_cons_of_mem _ hx)
    simp only [List.length_append, List.length_cons] at hOthers ⊢
    omega

theorem nextItem_close {blanks : List Char} (h : Blanks blanks) (first : Bool) (rest : List Char) :
    nextItem first (blanks ++ ']' :: rest) = .ok (false, rest) := by
  rw [nextItem, skipBlank_append h, skipBlank_cons (by decide)]
  simp

theorem nextItem_first {s : List Char} (h : StartsItem (skipBlank s)) :
    nextItem true s = .ok (true, skipBlank s) := by
  obtain ⟨c, r, hs, _, hc⟩ := h
  rw [nextItem, hs]
  simp [hc]

/-- After a comma an item is looked for as if it were the first. -/
theorem nextItem_comma {blanks s : List Char} (hBlanks : Blanks blanks)
    (h : StartsItem (skipBlank s)) : nextItem false (blanks ++ ',' :: s) = nextItem true s := by
  rw [nextItem_first h, nextItem, skipBlank_append hBlanks, skipBlank_cons (by decide)]
  obtain ⟨c, r, hs, _, hc⟩ := h
  simp [hs, hc]

theorem elementsLoop_comma {item : List Char → Scanned α} {blanks s : List Char}
    (hBlanks : Blanks blanks) (h : StartsItem (skipBlank s)) (bound : Nat) :
    elementsLoop item bound false (blanks ++ ',' :: s) = elementsLoop item bound true s := by
  cases bound with
  | zero => rfl
  | succ bound => rw [elementsLoop, nextItem_comma hBlanks h, elementsLoop]

theorem elementsLoop_close {item : List Char → Scanned α} {blanks : List Char}
    (hBlanks : Blanks blanks) (bound : Nat) (first : Bool) (rest : List Char) :
    elementsLoop item (bound + 1) first (blanks ++ ']' :: rest) = .ok ([], rest) := by
  rw [elementsLoop, nextItem_close hBlanks]

/-- One item is read, and the loop goes on after it. -/
theorem elementsLoop_item {item : List Char → Scanned α} {x : α} {text before s : List Char}
    (hItem : Reads item x text) (hBefore : Blanks before) (hEnd : Delimited s) {bound : Nat}
    {xs : List α} {rest : List Char} (hRest : elementsLoop item bound false s = .ok (xs, rest)) :
    elementsLoop item (bound + 1) true (before ++ (text ++ s)) = .ok (x :: xs, rest) := by
  have hSkip : skipBlank (before ++ (text ++ s)) = text ++ s :=
    (hItem.begins.append s).skipBlank_append hBefore
  have hNext : nextItem true (before ++ (text ++ s)) = .ok (true, text ++ s) := by
    rw [nextItem_first (by rw [hSkip]; exact hItem.begins.append s), hSkip]
  have hRead := hItem.reads blanks_nil hEnd
  rw [List.nil_append] at hRead
  rw [elementsLoop, hNext]
  simp only [hRead, hRest]

/-- The items of an array are read up to the bracket that closes it. -/
theorem elementsLoop_listed {item : List Char → Scanned α} {xs : List α} {text : List Char}
    (h : Listed (Reads item) xs text) {bound : Nat} (hBound : xs.length ≤ bound) (rest : List Char) :
    elementsLoop item (bound + 1) true (text ++ ']' :: rest) = .ok (xs, rest) := by
  induction h generalizing bound with
  | nil hBlanks => exact elementsLoop_close hBlanks bound true rest
  | @single x _ hItem =>
    obtain ⟨hBefore, hText, hAfter⟩ := hItem
    obtain _ | bound := bound
    · exact absurd hBound (Nat.not_succ_le_zero _)
    rw [List.append_assoc, List.append_assoc]
    exact elementsLoop_item hText hBefore
      (.append hAfter (delimited_cons (by simp) _)) (elementsLoop_close hAfter bound false rest)
  | @cons x y xs _ others hItem hOthers ih =>
    obtain ⟨hBefore, hText, hAfter⟩ := hItem
    obtain _ | bound := bound
    · exact absurd hBound (Nat.not_succ_le_zero _)
    have hStarts : StartsItem (skipBlank (others ++ ']' :: rest)) := by
      obtain ⟨before, t, s, hSplit, hBlanks, hNext⟩ := hOthers.first (']' :: rest)
      rw [hSplit, (hNext.begins.append s).skipBlank_append hBlanks]
      exact hNext.begins.append s
    rw [List.append_assoc, List.append_assoc, List.append_assoc, List.cons_append]
    refine elementsLoop_item hText hBefore
      (.append hAfter (delimited_cons (by simp) _)) ?_
    rw [elementsLoop_comma hAfter hStarts]
    exact ih (Nat.le_of_succ_le_succ hBound)

/-- The items of an array are read after its opening bracket. -/
theorem elements_listed {item : List Char → Scanned α} {xs : List α} {text : List Char}
    (h : Listed (Reads item) xs text) (rest : List Char) :
    elements item (text ++ ']' :: rest) = .ok (xs, rest) := by
  refine elementsLoop_listed h ?_ rest
  have hLength := h.length_le fun x _ t hText => hText.begins
  simp only [List.length_append, List.length_cons]
  omega

/-- An array is read by a reader that looks at its items where the opening bracket has been read. -/
theorem reads_arrayText {item : List Char → Scanned α} {xs : List α} {text : List Char}
    (h : ArrayText (Reads item) xs text) {reader : List Char → Scanned β} {y : β}
    (hReader : ∀ s r, skipBlank s = '[' :: r → ∀ rest, elements item r = .ok (xs, rest) →
      reader s = .ok (y, rest)) : Reads reader y text := by
  obtain ⟨hItems⟩ := h
  refine ⟨⟨'[', _, rfl, by decide, by decide⟩, fun {before rest} hBefore _ => ?_⟩
  refine hReader _ _ ?_ rest (elements_listed hItems rest)
  rw [skipBlank_append hBefore, List.cons_append, skipBlank_cons (by decide), List.append_assoc,
    List.singleton_append]

/-- An array is read with a reader that reads its items. -/
theorem reads_readArray {item : List Char → Scanned α} {xs : List α} {text : List Char}
    (h : ArrayText (Reads item) xs text) : Reads (readArray item) xs text := by
  refine reads_arrayText h fun s r hSkip rest hItems => ?_
  rw [readArray, hSkip]
  simp [hItems]

/-- A member with this text leads from one state of the reader of members to another. -/
def ReadsMember (member : σ → String → List Char → Scanned σ) (st st' : σ) (text : List Char) : Prop :=
  ∃ key name body, text = name ++ body ∧ StringText key name ∧
    ∀ {rest}, Delimited rest → member st key (body ++ rest) = .ok (st', rest)

/-- The members lead, one after another, from one state to another. -/
inductive Takes (member : σ → String → List Char → Scanned σ) (W : α → List Char → Prop) :
    σ → List α → σ → Prop where
  | nil {st : σ} : Takes member W st [] st
  | cons {st middle finish : σ} {x : α} {xs : List α} :
      (∀ t, W x t → ReadsMember member st middle t) → Takes member W middle xs finish →
      Takes member W st (x :: xs) finish

theorem ReadsMember.startsItem {member : σ → String → List Char → Scanned σ} {st st' : σ}
    {text : List Char} (h : ReadsMember member st st' text) : StartsItem text := by
  obtain ⟨_, _, _, rfl, hName, _⟩ := h
  exact hName.startsItem.append _

theorem Takes.startsItem {member : σ → String → List Char → Scanned σ} {st st' : σ} {xs : List α}
    (h : Takes member W st xs st') : ∀ x ∈ xs, ∀ t, W x t → StartsItem t := by
  induction h with
  | nil => exact fun x hx => nomatch hx
  | cons hMember _ ih =>
    intro x hx t ht
    rcases List.mem_cons.mp hx with rfl | hx
    · exact (hMember t ht).startsItem
    · exact ih x hx t ht

/-- The members lead from state to state when each leads from every state to the next one. -/
theorem takes_foldl {member : σ → String → List Char → Scanned σ} {next : σ → α → σ} {xs : List α}
    (h : ∀ x ∈ xs, ∀ st t, W x t → ReadsMember member st (next st x) t) (st : σ) :
    Takes member W st xs (xs.foldl next st) := by
  induction xs generalizing st with
  | nil => exact .nil
  | cons x xs ih =>
    exact .cons (h x List.mem_cons_self st)
      (ih (fun y hy => h y (List.mem_cons_of_mem x hy)) (next st x))

theorem nextKey_close {blanks : List Char} (h : Blanks blanks) (first : Bool) (rest : List Char) :
    nextKey first (blanks ++ '\x7d' :: rest) = .ok (none, rest) := by
  rw [nextKey, skipBlank_append h, skipBlank_cons (by decide)]
  simp

theorem nextKey_first {key : String} {name before : List Char} (hBefore : Blanks before)
    (hName : StringText key name) (s : List Char) :
    nextKey true (before ++ (name ++ s)) = .ok (some key, s) := by
  cases hName with
  | quoted hChars =>
    rw [nextKey, skipBlank_append hBefore, List.cons_append, skipBlank_cons (by decide),
      List.append_assoc, List.singleton_append]
    simp [readString_charsText hChars]

/-- After a comma a key is looked for as if it were the first. -/
theorem nextKey_comma {key : String} {blanks s rest : List Char} (hBlanks : Blanks blanks)
    (h : nextKey true s = .ok (some key, rest)) :
    nextKey false (blanks ++ ',' :: s) = .ok (some key, rest) := by
  rw [nextKey, skipBlank_append hBlanks, skipBlank_cons (by decide)]
  rw [nextKey] at h
  cases hs : skipBlank s with
  | nil => simp [hs] at h
  | cons c r =>
    simp only [hs] at h
    split_ifs at h with hClose hQuote
    · cases h
    · simpa [hs, hQuote] using h

theorem membersLoop_comma {member : σ → String → List Char → Scanned σ} {key : String}
    {blanks s rest : List Char} (hBlanks : Blanks blanks)
    (h : nextKey true s = .ok (some key, rest)) (bound : Nat) (st : σ) :
    membersLoop member bound false st (blanks ++ ',' :: s) = membersLoop member bound true st s := by
  cases bound with
  | zero => rfl
  | succ bound => rw [membersLoop, nextKey_comma hBlanks h, membersLoop, h]

theorem membersLoop_close {member : σ → String → List Char → Scanned σ} {blanks : List Char}
    (hBlanks : Blanks blanks) (bound : Nat) (first : Bool) (st : σ) (rest : List Char) :
    membersLoop member (bound + 1) first st (blanks ++ '\x7d' :: rest) = .ok (st, rest) := by
  rw [membersLoop, nextKey_close hBlanks]

/-- One member is read, and the loop goes on after it. -/
theorem membersLoop_member {member : σ → String → List Char → Scanned σ} {st st' : σ}
    {text before s : List Char} (hMember : ReadsMember member st st' text) (hBefore : Blanks before)
    (hEnd : Delimited s) (bound : Nat) :
    membersLoop member (bound + 1) true st (before ++ (text ++ s)) =
      membersLoop member bound false st' s := by
  obtain ⟨key, name, body, rfl, hName, hRead⟩ := hMember
  rw [membersLoop, List.append_assoc, nextKey_first hBefore hName]
  simp only [hRead hEnd]

/-- The members of an object are read up to the brace that closes it. -/
theorem membersLoop_listed {member : σ → String → List Char → Scanned σ} {xs : List α}
    {text : List Char} (h : Listed W xs text) {st finish : σ} (hTakes : Takes member W st xs finish)
    {bound : Nat} (hBound : xs.length ≤ bound) (rest : List Char) :
    membersLoop member (bound + 1) true st (text ++ '\x7d' :: rest) = .ok (finish, rest) := by
  induction h generalizing bound st with
  | nil hBlanks =>
    cases hTakes
    exact membersLoop_close hBlanks bound true _ rest
  | @single x _ hItem =>
    obtain ⟨hBefore, hText, hAfter⟩ := hItem
    obtain _ | bound := bound
    · exact absurd hBound (Nat.not_succ_le_zero _)
    cases hTakes with
    | cons hMember hNone =>
      cases hNone
      rw [List.append_assoc, List.append_assoc, membersLoop_member (hMember _ hText) hBefore
        (.append hAfter (delimited_cons (by simp) _))]
      exact membersLoop_close hAfter bound false _ rest
  | @cons x y xs _ others hItem hOthers ih =>
    obtain ⟨hBefore, hText, hAfter⟩ := hItem
    obtain _ | bound := bound
    · exact absurd hBound (Nat.not_succ_le_zero _)
    cases hTakes with
    | cons hMember hRest =>
      have hKey : ∃ key s, nextKey true (others ++ '\x7d' :: rest) = .ok (some key, s) := by
        obtain ⟨before, t, s, hSplit, hBlanks, ht⟩ := hOthers.first ('\x7d' :: rest)
        cases hRest with
        | cons hNext _ =>
          obtain ⟨key, name, body, rfl, hName, _⟩ := hNext t ht
          rw [hSplit, List.append_assoc]
          exact ⟨key, _, nextKey_first hBlanks hName _⟩
      obtain ⟨key, s, hKey⟩ := hKey
      rw [List.append_assoc, List.append_assoc, List.append_assoc, List.cons_append,
        membersLoop_member (hMember _ hText) hBefore (.append hAfter (delimited_cons (by simp) _)),
        membersLoop_comma hAfter hKey]
      exact ih hRest (Nat.le_of_succ_le_succ hBound)

/-- The members of an object are read after its opening brace. -/
theorem members_listed {member : σ → String → List Char → Scanned σ} {xs : List α}
    {text : List Char} (h : Listed W xs text) {st finish : σ} (hTakes : Takes member W st xs finish)
    (rest : List Char) : members member st (text ++ '\x7d' :: rest) = .ok (finish, rest) := by
  refine membersLoop_listed h hTakes ?_ rest
  have hLength := h.length_le hTakes.startsItem
  simp only [List.length_append, List.length_cons]
  omega

/-- An object is read by a reader that looks at its members where the opening brace has been read. -/
theorem reads_objectText {member : σ → String → List Char → Scanned σ} {xs : List α}
    {text : List Char} (h : ObjectText W xs text) {st finish : σ} (hTakes : Takes member W st xs finish)
    {reader : List Char → Scanned β} {y : β}
    (hReader : ∀ s r, skipBlank s = '\x7b' :: r → ∀ rest, members member st r = .ok (finish, rest) →
      reader s = .ok (y, rest)) : Reads reader y text := by
  obtain ⟨hMembers⟩ := h
  refine ⟨⟨'\x7b', _, rfl, by decide, by decide⟩, fun {before rest} hBefore _ => ?_⟩
  refine hReader _ _ ?_ rest (members_listed hMembers hTakes rest)
  rw [skipBlank_append hBefore, List.cons_append, skipBlank_cons (by decide), List.append_assoc,
    List.singleton_append]

theorem colon_append {blanks : List Char} (h : Blanks blanks) (s : List Char) :
    colon (blanks ++ ':' :: s) = .ok s := by
  rw [colon, skipBlank_append h, skipBlank_cons (by decide)]
  simp

/-- A member of an object is read by a reader that reads its value where the colon has been read. -/
theorem readsMember_memberText {member : σ → String → List Char → Scanned σ} {st st' : σ}
    {key : String} {x : α} {text : List Char} (h : MemberText key W x text)
    {value : List Char → Scanned β} {y : β} (hReads : ∀ t, W x t → Reads value y t)
    (hMember : ∀ s s', colon s = .ok s' → ∀ rest, value s' = .ok (y, rest) →
      member st key s = .ok (st', rest)) : ReadsMember member st st' text := by
  obtain ⟨hName, hBefore, hAfter, hText⟩ := h
  refine ⟨key, _, _, rfl, hName, fun {rest} hRest => ?_⟩
  rw [List.append_assoc, List.cons_append, List.append_assoc]
  exact hMember _ _ (colon_append hBefore _) rest ((hReads _ hText).reads hAfter hRest)

/-- Blanks may stand around what a reader takes as a whole text. -/
theorem readWhole_of_reads {reader : List Char → Scanned β} {x : α} {y : β} {text : String}
    (h : Padded W x text.toList) (hReads : ∀ t, W x t → Reads reader y t) :
    readWhole reader text = .ok y := by
  rw [readWhole]
  generalize text.toList = s at h
  obtain ⟨hBefore, hText, hAfter⟩ := h
  simp only [(hReads _ hText).reads hBefore (delimited_blanks hAfter)]
  rw [skipBlank, List.dropWhile_eq_nil_iff.mpr hAfter]

end Json

end ScriptedDb
