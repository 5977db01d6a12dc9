import ScriptedDb.Argument

namespace ScriptedDb.Argument

variable {declared declared' : List Argument} {actual actual' : List Value} {i : Nat}
  {answer : Except Incomparable Bool}

/-- Where both lists have the position, its argument accepts its value. -/
def MatchesAt (declared : List Argument) (actual : List Value) (i : Nat) : Prop :=
  ∀ a v, declared[i]? = some a → actual[i]? = some v → a.accepts v = .ok true

/-- The position is the first one that does not match, and this is its answer. -/
structure FirstMismatch (declared : List Argument) (actual : List Value) (i : Nat)
    (answer : Except Incomparable Bool) : Prop where
  answered : ∃ a v, declared[i]? = some a ∧ actual[i]? = some v ∧ a.accepts v = answer
  mismatch : answer ≠ .ok true
  before : ∀ j < i, MatchesAt declared actual j

section cons

variable {a : Argument} {v : Value}

theorem forall_matchesAt_cons_iff : (∀ i, MatchesAt (a :: declared) (v :: actual) i) ↔
    a.accepts v = .ok true ∧ ∀ i, MatchesAt declared actual i := by
  constructor
  · intro h
    exact ⟨h 0 a v rfl rfl, fun i => h (i + 1)⟩
  · rintro ⟨hFirst, hRest⟩ i
    cases i with
    | zero =>
      rintro _ _ ⟨⟩ ⟨⟩
      exact hFirst
    | succ i => exact hRest i

theorem firstMismatch_zero_iff : FirstMismatch (a :: declared) (v :: actual) 0 answer ↔
    a.accepts v = answer ∧ answer ≠ .ok true := by
  constructor
  · rintro ⟨⟨_, _, ⟨⟩, ⟨⟩, hAnswer⟩, hMismatch, -⟩
    exact ⟨hAnswer, hMismatch⟩
  · rintro ⟨hAnswer, hMismatch⟩
    exact ⟨⟨a, v, rfl, rfl, hAnswer⟩, hMismatch, fun j hj => absurd hj (Nat.not_lt_zero j)⟩

theorem firstMismatch_succ_iff : FirstMismatch (a :: declared) (v :: actual) (i + 1) answer ↔
    a.accepts v = .ok true ∧ FirstMismatch declared actual i answer := by
  constructor
  · rintro ⟨hAnswered, hMismatch, hBefore⟩
    refine ⟨hBefore 0 (Nat.succ_pos i) a v rfl rfl, hAnswered, hMismatch, fun j hj => ?_⟩
    exact hBefore (j + 1) (Nat.succ_lt_succ hj)
  · rintro ⟨hFirst, hAnswered, hMismatch, hBefore⟩
    refine ⟨hAnswered, hMismatch, fun j hj => ?_⟩
    cases j with
    | zero =>
      rintro _ _ ⟨⟩ ⟨⟩
      exact hFirst
    | succ j => exact hBefore j (Nat.lt_of_succ_lt_succ hj)

theorem acceptsEach_cons_of_accepts (h : a.accepts v = .ok true) :
    acceptsEach (a :: declared) (v :: actual) = acceptsEach declared actual := by
  rw [acceptsEach, h]

theorem acceptsEach_cons_of_mismatch (h : a.accepts v ≠ .ok true) :
    acceptsEach (a :: declared) (v :: actual) = a.accepts v := by
  unfold acceptsEach
  split
  · rename_i hAccepts
    exact absurd hAccepts h
  · rename_i hRefuses
    exact hRefuses.symm
  · rename_i hFails
    exact hFails.symm

end cons

/-- Either every position matches, or some position is the first that does not. -/
theorem forall_matchesAt_or_exists (declared : List Argument) (actual : List Value) :
    (∀ i, MatchesAt declared actual i) ∨ ∃ i answer, FirstMismatch declared actual i answer := by
  induction declared generalizing actual with
  | nil => exact .inl fun i a v ha => nomatch ha
  | cons a declared ih =>
    cases actual with
    | nil => exact .inl fun i a v _ hv => nomatch hv
    | cons v actual =>
      by_cases hFirst : a.accepts v = .ok true
      · rcases ih actual with hAll | ⟨i, answer, hMismatch⟩
        · exact .inl (forall_matchesAt_cons_iff.mpr ⟨hFirst, hAll⟩)
        · exact .inr ⟨i + 1, answer, firstMismatch_succ_iff.mpr ⟨hFirst, hMismatch⟩⟩
      · exact .inr ⟨0, a.accepts v, firstMismatch_zero_iff.mpr ⟨rfl, hFirst⟩⟩

theorem acceptsEach_of_forall (h : ∀ i, MatchesAt declared actual i) :
    acceptsEach declared actual = .ok true := by
  induction declared generalizing actual with
  | nil => rfl
  | cons a declared ih =>
    cases actual with
    | nil => rfl
    | cons v actual =>
      obtain ⟨hFirst, hRest⟩ := forall_matchesAt_cons_iff.mp h
      rw [acceptsEach_cons_of_accepts hFirst, ih hRest]

/-- The answer of the first position that does not match is the answer. -/
theorem FirstMismatch.acceptsEach_eq (h : FirstMismatch declared actual i answer) :
    acceptsEach declared actual = answer := by
  induction declared generalizing actual i with
  | nil => simpa using h.answered
  | cons a declared ih =>
    cases actual with
    | nil => simpa using h.answered
    | cons v actual =>
      cases i with
      | zero =>
        obtain ⟨rfl, hMismatch⟩ := firstMismatch_zero_iff.mp h
        exact acceptsEach_cons_of_mismatch hMismatch
      | succ i =>
        obtain ⟨hFirst, hRest⟩ := firstMismatch_succ_iff.mp h
        rw [acceptsEach_cons_of_accepts hFirst, ih hRest]

theorem acceptsEach_eq_ok_true_iff :
    acceptsEach declared actual = .ok true ↔ ∀ i, MatchesAt declared actual i := by
  refine ⟨fun h => ?_, acceptsEach_of_forall⟩
  rcases forall_matchesAt_or_exists declared actual with hAll | ⟨i, answer, hMismatch⟩
  · exact hAll
  · exact absurd (hMismatch.acceptsEach_eq.symm.trans h) hMismatch.mismatch

/-- Any other answer is that of the first position that does not match. -/
theorem acceptsEach_eq_iff (hAnswer : answer ≠ .ok true) :
    acceptsEach declared actual = answer ↔ ∃ i, FirstMismatch declared actual i answer := by
  constructor
  · rintro rfl
    rcases forall_matchesAt_or_exists declared actual with hAll | ⟨i, answer, hMismatch⟩
    · exact absurd (acceptsEach_of_forall hAll) hAnswer
    · rw [hMismatch.acceptsEach_eq]
      exact ⟨i, hMismatch⟩
  · rintro ⟨i, hMismatch⟩
    exact hMismatch.acceptsEach_eq

/-- What follows the first position that does not match plays no part in its being so. -/
theorem FirstMismatch.of_take_eq (h : FirstMismatch declared actual i answer)
    (hDeclared : declared'.take (i + 1) = declared.take (i + 1))
    (hActual : actual'.take (i + 1) = actual.take (i + 1)) :
    FirstMismatch declared' actual' i answer := by
  have hArgument : ∀ j < i + 1, declared'[j]? = declared[j]? := fun j hj => by
    rw [← List.getElem?_take_of_lt hj, hDeclared, List.getElem?_take_of_lt hj]
  have hValue : ∀ j < i + 1, actual'[j]? = actual[j]? := fun j hj => by
    rw [← List.getElem?_take_of_lt hj, hActual, List.getElem?_take_of_lt hj]
  obtain ⟨a, v, ha, hv, hAnswer⟩ := h.answered
  refine ⟨⟨a, v, ?_, ?_, hAnswer⟩, h.mismatch, fun j hj a v ha hv => ?_⟩
  · rw [hArgument i (Nat.lt_succ_self i), ha]
  · rw [hValue i (Nat.lt_succ_self i), hv]
  · rw [hArgument j (Nat.lt_succ_of_lt hj)] at ha
    rw [hValue j (Nat.lt_succ_of_lt hj)] at hv
    exact h.before j hj a v ha hv

theorem acceptsAll_of_length_eq (h : declared.length = actual.length) :
    acceptsAll (some declared) actual = acceptsEach declared actual :=
  if_pos h

theorem acceptsAll_of_length_ne (h : declared.length ≠ actual.length) :
    acceptsAll (some declared) actual = .ok false :=
  if_neg h

/-- Without a declaration any arguments are accepted, and arguments of another number than declared are
refused, also where a position would fail. Otherwise they are accepted if every position matches, and else
the first position that does not match gives the answer: it refuses them, or it fails with its own error. The
positions after it may be anything. -/
theorem first_mismatch_decides (declared : List Argument) (actual : List Value) :
    acceptsAll none actual = .ok true ∧
    (acceptsAll (some declared) actual = .ok true ↔
      declared.length = actual.length ∧ ∀ i, MatchesAt declared actual i) ∧
    (acceptsAll (some declared) actual = .ok false ↔
      declared.length ≠ actual.length ∨ ∃ i, FirstMismatch declared actual i (.ok false)) ∧
    (∀ e, acceptsAll (some declared) actual = .error e ↔
      declared.length = actual.length ∧ ∃ i, FirstMismatch declared actual i (.error e)) ∧
    ∀ i answer, FirstMismatch declared actual i answer →
      ∀ (declared' : List Argument) (actual' : List Value), declared'.length = actual'.length →
        declared'.take (i + 1) = declared.take (i + 1) → actual'.take (i + 1) = actual.take (i + 1) →
        acceptsAll (some declared') actual' = answer := by
  refine ⟨rfl, ?_, ?_, ?_, ?_⟩
  · by_cases hLength : declared.length = actual.length
    · rw [acceptsAll_of_length_eq hLength, acceptsEach_eq_ok_true_iff, and_iff_right hLength]
    · simp [acceptsAll_of_length_ne hLength, hLength]
  · by_cases hLength : declared.length = actual.length
    · rw [acceptsAll_of_length_eq hLength, acceptsEach_eq_iff (by simp),
        or_iff_right (not_not_intro hLength)]
    · simp [acceptsAll_of_length_ne hLength, hLength]
  · intro e
    by_cases hLength : declared.length = actual.length
    · rw [acceptsAll_of_length_eq hLength, acceptsEach_eq_iff (by simp), and_iff_right hLength]
    · simp [acceptsAll_of_length_ne hLength, hLength]
  · intro i answer hMismatch declared' actual' hLength hDeclared hActual
    rw [acceptsAll_of_length_eq hLength]
    exact (hMismatch.of_take_eq hDeclared hActual).acceptsEach_eq

/-- A matcher of positive integers, which fails for all other values. -/
def positive : Matcher where
  accepts
    | .integer i => .ok (0 < i)
    | v => .error ⟨"integer", v.typeName, .custom "positive check needs an integer"⟩
  description := "<positive>"

/-- The matcher at the second position fails before the bytes at the third one can, and also where the third
position matches. With an argument too few nothing fails. -/
theorem first_mismatch_decides_positive :
    ∃ failure : Incomparable,
      FirstMismatch [.any, .custom positive, .value (.text "bob")] [.null, .text "x", .blob [0xFF]] 1
        (.error failure) ∧
      acceptsAll (some [.any, .custom positive, .value (.text "bob")])
        [.null, .text "x", .blob [0xFF]] = .error failure ∧
      acceptsAll (some [.any, .custom positive, .any]) [.null, .text "x", .integer 5] =
        .error failure ∧
      acceptsAll (some [.any, .custom positive]) [.null, .text "x", .integer 5] = .ok false := by
  have hMismatch : FirstMismatch [.any, .custom positive, .value (.text "bob")]
      [.null, .text "x", .blob [0xFF]] 1 (.error ⟨"integer", "text", _⟩) :=
    firstMismatch_succ_iff.mpr ⟨rfl, firstMismatch_zero_iff.mpr ⟨rfl, by simp⟩⟩
  obtain ⟨-, -, -, hError, hLater⟩ := first_mismatch_decides
    [.any, .custom positive, .value (.text "bob")] [.null, .text "x", .blob [0xFF]]
  obtain ⟨-, -, hRefused, -⟩ := first_mismatch_decides [.any, .custom positive]
    [.null, .text "x", .integer 5]
  exact ⟨_, hMismatch, (hError _).mpr ⟨rfl, 1, hMismatch⟩, hLater 1 _ hMismatch _ _ rfl rfl rfl,
    hRefused.mpr (.inl (by decide))⟩

end ScriptedDb.Argument
