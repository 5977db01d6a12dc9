import Mathlib.Data.List.Chain
import ScriptedDb.Proofs.Words
import ScriptedDb.Session.Calls

/-! `Text.Divides` says what the words of a text are without scanning it: together with blanks
between them they make up the text, and none could be longer. -/

namespace ScriptedDb

namespace Text

def AllBlank (cs : List Char) : Prop :=
  ∀ c ∈ cs, isBlank c = true

/-- The text consists of the words, in order, and of blanks. A word ends where the text does, or before
a blank. -/
inductive Divides : List (List Char) → List Char → Prop where
  | nil {blanks : List Char} : AllBlank blanks → Divides [] blanks
  | cons {blanks word rest : List Char} {ws : List (List Char)} : AllBlank blanks → IsWord word →
      (∀ c ∈ rest.head?, isBlank c = true) → Divides ws rest →
      Divides (word :: ws) (blanks ++ (word ++ rest))

theorem words_blank {c : Char} (h : isBlank c = true) (cs : List Char) : words (c :: cs) = words cs := by
  rw [words, scanWords_blank h]
  rfl

theorem words_blanks {blanks : List Char} (h : AllBlank blanks) (cs : List Char) :
    words (blanks ++ cs) = words cs := by
  induction blanks with
  | nil => rfl
  | cons c blanks ih =>
    rw [AllBlank, List.forall_mem_cons] at h
    rw [List.cons_append, words_blank h.1, ih h.2]

theorem Divides.words_eq {ws : List (List Char)} {cs : List Char} (h : Divides ws cs) :
    words cs = ws := by
  induction h with
  | nil hBlanks =>
    have hWords := words_blanks hBlanks []
    rwa [List.append_nil] at hWords
  | @cons blanks word rest ws hBlanks hWord hEnd _ ih =>
    rw [words_blanks hBlanks]
    cases rest with
    | nil => rw [List.append_nil, words_of_isWord hWord, ← ih]; rfl
    | cons c rest =>
      have hBlank : isBlank c = true := hEnd c rfl
      rw [words_append_blank hWord hBlank, ← words_blank hBlank, ih]

theorem Divides.blank {ws : List (List Char)} {cs : List Char} (h : Divides ws cs) {c : Char}
    (hBlank : isBlank c = true) : Divides ws (c :: cs) := by
  cases h with
  | nil hBlanks => exact .nil (List.forall_mem_cons.mpr ⟨hBlank, hBlanks⟩)
  | cons hBlanks hWord hEnd hRest =>
    exact @Divides.cons (c :: _) _ _ _ (List.forall_mem_cons.mpr ⟨hBlank, hBlanks⟩) hWord hEnd hRest

theorem divides_consWord {run rest : List Char} {ws : List (List Char)}
    (hRun : ∀ c ∈ run, isBlank c = false) (hEnd : ∀ c ∈ rest.head?, isBlank c = true)
    (hRest : Divides ws rest) : Divides (consWord run ws) (run ++ rest) := by
  cases run with
  | nil => exact hRest
  | cons c run =>
    rw [consWord_of_ne_nil (by simp)]
    exact @Divides.cons [] _ _ _ (by simp [AllBlank]) ⟨by simp, hRun⟩ hEnd hRest

/-- The run that begins a text ends where the text does or before a blank, and the words after it divide
what follows. -/
theorem exists_rest_scanWords (cs : List Char) :
    ∃ rest, cs = (scanWords cs).1 ++ rest ∧ (∀ c ∈ rest.head?, isBlank c = true) ∧
      Divides (scanWords cs).2 rest := by
  induction cs with
  | nil => exact ⟨[], rfl, by simp, .nil (by simp [AllBlank])⟩
  | cons c cs ih =>
    obtain ⟨rest, hSplit, hEnd, hRest⟩ := ih
    cases hBlank : isBlank c with
    | true =>
      have hWords := divides_consWord (scanWords_spec cs).1 hEnd hRest
      rw [← hSplit] at hWords
      rw [scanWords_blank hBlank]
      exact ⟨c :: cs, rfl, by simpa using hBlank, hWords.blank hBlank⟩
    | false =>
      simp only [scanWords, hBlank, Bool.false_eq_true, if_false]
      exact ⟨rest, by rw [List.cons_append, ← hSplit], hEnd, hRest⟩

/-- The words of a text are what divides it. -/
theorem divides_iff {ws : List (List Char)} {cs : List Char} : Divides ws cs ↔ words cs = ws := by
  constructor
  · intro h
    exact h.words_eq
  · rintro rfl
    obtain ⟨rest, hSplit, hEnd, hRest⟩ := exists_rest_scanWords cs
    have hWords := divides_consWord (scanWords_spec cs).1 hEnd hRest
    rwa [← hSplit] at hWords

/-- A text with no blank at either end, no two blanks next to each other, and no blank other than the
space. -/
structure Tidy (cs : List Char) : Prop where
  first : ∀ c ∈ cs.head?, isBlank c = false
  last : ∀ c ∈ cs.getLast?, isBlank c = false
  apart : cs.IsChain fun c d => isBlank c = false ∨ isBlank d = false
  space : ∀ c ∈ cs, isBlank c = true → c = ' '

theorem IsWord.tidy {word : List Char} (h : IsWord word) : Tidy word where
  first c hc := h.noBlank c (List.mem_of_mem_head? hc)
  last c hc := h.noBlank c (List.mem_of_getLast? hc)
  apart := by
    rw [List.isChain_iff_getElem]
    intro i hi
    exact .inl (h.noBlank _ (List.getElem_mem _))
  space c hc hBlank := by
    rw [h.noBlank c hc] at hBlank
    cases hBlank

/-- A word in front of a tidy text, with a space between them. -/
theorem Tidy.word_append {word cs : List Char} (hWord : IsWord word) (h : Tidy cs) (hcs : cs ≠ []) :
    Tidy (word ++ ' ' :: cs) where
  first c hc := by
    rw [List.head?_append_of_ne_nil word hWord.ne_nil] at hc
    exact hWord.tidy.first c hc
  last c hc := by
    rw [List.getLast?_append_of_ne_nil word (by simp), List.getLast?_cons_of_ne_nil hcs] at hc
    exact h.last c hc
  apart := by
    rw [List.isChain_append, List.isChain_cons]
    refine ⟨hWord.tidy.apart, ⟨fun d hd => .inr (h.first d hd), h.apart⟩, ?_⟩
    intro c hc _ _
    exact .inl (hWord.tidy.last c hc)
  space c hc hBlank := by
    rcases List.mem_append.mp hc with hc | hc
    · exact hWord.tidy.space c hc hBlank
    · rcases List.mem_cons.mp hc with rfl | hc
      · rfl
      · exact h.space c hc hBlank

theorem tidy_intercalate {ws : List (List Char)} (h : ∀ word ∈ ws, IsWord word) :
    Tidy ([' '].intercalate ws) := by
  induction ws with
  | nil => exact ⟨by simp, by simp, by simp, by simp⟩
  | cons word ws ih =>
    rw [List.forall_mem_cons] at h
    cases ws with
    | nil => simpa using h.1.tidy
    | cons next ws =>
      have hTidy := ih h.2
      have hNext : [' '].intercalate (next :: ws) ≠ [] := by
        intro hNil
        have hWords := words_intercalate h.2
        rw [hNil] at hWords
        cases hWords
      rw [List.intercalate_cons_cons, List.append_assoc, List.singleton_append]
      exact hTidy.word_append h.1 hNext

/-- A line tells the words of its text and nothing else. -/
theorem oneLine_eq_iff {cs ds : List Char} : oneLine cs = oneLine ds ↔ words cs = words ds := by
  constructor
  · intro h
    rw [← words_oneLine cs, h, words_oneLine]
  · intro h
    rw [oneLine, h, ← oneLine]

end Text

theorem normalizeQuery_eq_iff {query other : String} :
    normalizeQuery query = normalizeQuery other ↔
      Text.words query.toList = Text.words other.toList := by
  rw [← Text.oneLine_eq_iff, normalizeQuery, normalizeQuery, String.ofList_inj]

namespace Session

/-- Two texts with one normal form are one query to a session: the answer, the session afterwards and
what the log is told are the same. -/
theorem calls_eq_of_normalizeQuery_eq {query other : String}
    (h : normalizeQuery query = normalizeQuery other) (s : Session) (args : List Value) :
    s.prepare query = s.prepare other ∧ s.exec query args = s.exec other args ∧
      s.query query args = s.query other args := by
  refine ⟨?_, ?_, ?_⟩
  · rw [prepare, h, ← prepare]
  · rw [exec, h, ← exec]
  · rw [Session.query, h, ← Session.query]

end Session

/-- Queries are compared by their words. A text is divided into words in one way, and the normal form
has these words, in order, with single spaces between them; so it has no blank at an end, no two blanks
together and none but spaces, and it is its own normal form. Two texts have one normal form exactly if
they have the same words, and then a session does not tell them apart. -/
theorem queries_compared_by_words (query : String) :
    (∃ ws, Text.Divides ws query.toList ∧ (∀ other, Text.Divides other query.toList → other = ws) ∧
      normalizeQuery query = String.ofList ([' '].intercalate ws)) ∧
    Text.Tidy (normalizeQuery query).toList ∧
    normalizeQuery (normalizeQuery query) = normalizeQuery query ∧
    (∀ other, normalizeQuery query = normalizeQuery other ↔
      ∃ ws, Text.Divides ws query.toList ∧ Text.Divides ws other.toList) ∧
    ∀ other ws, Text.Divides ws query.toList → Text.Divides ws other.toList →
      ∀ (s : Session) (args : List Value), s.prepare query = s.prepare other ∧
        s.exec query args = s.exec other args ∧ s.query query args = s.query other args := by
  have hLine : normalizeQuery query = String.ofList ([' '].intercalate (Text.words query.toList)) := by
    rw [normalizeQuery, Text.oneLine_eq_intercalate]
  refine ⟨⟨Text.words query.toList, Text.divides_iff.mpr rfl, ?_, hLine⟩, ?_,
    normalizeQuery_normalizeQuery query, ?_, ?_⟩
  · intro other hOther
    exact hOther.words_eq.symm
  · rw [hLine, String.toList_ofList]
    exact Text.tidy_intercalate fun _ => Text.isWord_of_mem_words
  · intro other
    rw [normalizeQuery_eq_iff]
    constructor
    · intro h
      exact ⟨_, Text.divides_iff.mpr rfl, Text.divides_iff.mpr h.symm⟩
    · rintro ⟨ws, hQuery, hOther⟩
      rw [hQuery.words_eq, hOther.words_eq]
  · intro other ws hQuery hOther
    apply Session.calls_eq_of_normalizeQuery_eq
    rw [normalizeQuery_eq_iff, hQuery.words_eq, hOther.words_eq]

/-- A wide space in front, a line feed and a tab between the words, and a space behind them. -/
theorem queries_compared_by_words_blanks :
    Text.Divides ["SELECT".toList, "*".toList] "\u2003SELECT\n\t* ".toList ∧
      Text.Divides ["SELECT".toList, "*".toList] "SELECT *".toList ∧
      ∀ (s : Session) (args : List Value),
        s.prepare "\u2003SELECT\n\t* " = s.prepare "SELECT *" ∧
        s.exec "\u2003SELECT\n\t* " args = s.exec "SELECT *" args ∧
        s.query "\u2003SELECT\n\t* " args = s.query "SELECT *" args := by
  have hSpread : Text.Divides ["SELECT".toList, "*".toList] "\u2003SELECT\n\t* ".toList :=
    Text.divides_iff.mpr (by decide)
  have hLine : Text.Divides ["SELECT".toList, "*".toList] "SELECT *".toList :=
    Text.divides_iff.mpr (by decide)
  obtain ⟨-, -, -, -, hSame⟩ := queries_compared_by_words "\u2003SELECT\n\t* "
  exact ⟨hSpread, hLine, hSame _ _ hSpread hLine⟩

end ScriptedDb
