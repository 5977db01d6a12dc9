import ScriptedDb.Call

namespace ScriptedDb

namespace Text

/-- A run of characters without blanks, of which there is one at least. -/
structure IsWord (cs : List Char) : Prop where
  ne_nil : cs ≠ []
  noBlank : ∀ c ∈ cs, isBlank c = false

theorem consWord_of_ne_nil {word : List Char} (h : word ≠ []) (rest : List (List Char)) :
    consWord word rest = word :: rest := by
  rw [consWord, if_neg]
  simpa using h

theorem scanWords_blank {c : Char} (h : isBlank c = true) (cs : List Char) :
    scanWords (c :: cs) = ([], words cs) := by
  simp only [scanWords, words, h, if_true]

/-- Characters that are not blank lengthen the run that begins the text. -/
theorem scanWords_append {run : List Char} (h : ∀ c ∈ run, isBlank c = false) (cs : List Char) :
    scanWords (run ++ cs) = (run ++ (scanWords cs).1, (scanWords cs).2) := by
  induction run with
  | nil => rfl
  | cons c run ih =>
    rw [List.forall_mem_cons] at h
    simp [scanWords, ih h.2, h.1]

/-- What is scanned are words, and a run that may be empty. -/
theorem scanWords_spec (cs : List Char) :
    (∀ c ∈ (scanWords cs).1, isBlank c = false) ∧ ∀ word ∈ (scanWords cs).2, IsWord word := by
  induction cs with
  | nil => simp [scanWords]
  | cons c cs ih =>
    obtain ⟨hRun, hRest⟩ := ih
    cases hBlank : isBlank c with
    | false =>
      simp only [scanWords, hBlank, Bool.false_eq_true, if_false]
      exact ⟨List.forall_mem_cons.mpr ⟨hBlank, hRun⟩, hRest⟩
    | true =>
      rw [scanWords_blank hBlank, words, consWord]
      refine ⟨by simp, ?_⟩
      split
      · exact hRest
      · rename_i hNonempty
        exact List.forall_mem_cons.mpr ⟨⟨by simpa using hNonempty, hRun⟩, hRest⟩

theorem isWord_of_mem_words {cs word : List Char} (h : word ∈ words cs) : IsWord word := by
  obtain ⟨hRun, hRest⟩ := scanWords_spec cs
  rw [words, consWord] at h
  split at h
  · exact hRest word h
  · rename_i hNonempty
    rcases List.mem_cons.mp h with rfl | h
    · exact ⟨by simpa using hNonempty, hRun⟩
    · exact hRest word h

theorem words_append_blank {word : List Char} (h : IsWord word) {c : Char}
    (hBlank : isBlank c = true) (cs : List Char) :
    words (word ++ c :: cs) = word :: words cs := by
  rw [words, scanWords_append h.noBlank, scanWords_blank hBlank, List.append_nil,
    consWord_of_ne_nil h.ne_nil]

theorem words_of_isWord {word : List Char} (h : IsWord word) : words word = [word] := by
  have hScan := scanWords_append h.noBlank []
  rw [List.append_nil, scanWords, List.append_nil] at hScan
  rw [words, hScan, consWord_of_ne_nil h.ne_nil]

theorem words_intercalate {ws : List (List Char)} (h : ∀ word ∈ ws, IsWord word) :
    words ([' '].intercalate ws) = ws := by
  induction ws with
  | nil => rfl
  | cons word ws ih =>
    rw [List.forall_mem_cons] at h
    cases ws with
    | nil => simpa using words_of_isWord h.1
    | cons next ws =>
      rw [List.intercalate_cons_cons, List.append_assoc, List.singleton_append,
        words_append_blank h.1 (by decide), ih h.2]

theorem appendWord_of_ne_nil {line : List Char} (h : line ≠ []) (word : List Char) :
    appendWord line word = line ++ ' ' :: word := by
  rw [appendWord, if_neg]
  · simp
  · simpa using h

/-- Once something is written, it counts as one item in front of the words to come. -/
theorem foldl_appendWord {line : List Char} (h : line ≠ []) (ws : List (List Char)) :
    ws.foldl appendWord line = [' '].intercalate (line :: ws) := by
  induction ws generalizing line with
  | nil => simp
  | cons word ws ih =>
    have hNext : appendWord line word ≠ [] := by simp [appendWord_of_ne_nil h]
    rw [List.foldl_cons, ih hNext, appendWord_of_ne_nil h, List.intercalate_cons_cons]
    cases ws with
    | nil => simp
    | cons next ws => simp [List.intercalate_cons_cons]

/-- The words of a text are written with one space between neighbours. No word is empty, so the line
is empty before the first word only. -/
theorem oneLine_eq_intercalate (cs : List Char) : oneLine cs = [' '].intercalate (words cs) := by
  rw [oneLine]
  cases hWords : words cs with
  | nil => rfl
  | cons word ws =>
    have hWord : IsWord word := isWord_of_mem_words (by rw [hWords]; exact List.mem_cons_self)
    rw [List.foldl_cons, appendWord, List.isEmpty_nil, if_pos rfl, List.nil_append,
      foldl_appendWord hWord.ne_nil]

theorem words_oneLine (cs : List Char) : words (oneLine cs) = words cs := by
  rw [oneLine_eq_intercalate]
  exact words_intercalate fun _ => isWord_of_mem_words

theorem oneLine_oneLine (cs : List Char) : oneLine (oneLine cs) = oneLine cs := by
  rw [oneLine, words_oneLine, ← oneLine]

end Text

theorem normalizeQuery_normalizeQuery (query : String) :
    normalizeQuery (normalizeQuery query) = normalizeQuery query := by
  rw [normalizeQuery, normalizeQuery, String.toList_ofList, Text.oneLine_oneLine]

end ScriptedDb
