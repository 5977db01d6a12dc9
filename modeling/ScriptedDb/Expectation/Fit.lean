import ScriptedDb.Expectation.Basic

/-! Which calls an expectation takes, said apart from how an attempt finds out. What it answers
plays no part in this. -/

namespace ScriptedDb.Expectation

/-- The call is of the expected kind, its query matches the pattern, if there is one, and its
arguments are accepted. -/
def fits (e : Expectation) (call : Call) : Bool :=
  e.kind == call.kind && e.payload.pattern?.all (·.isMatch call.query) &&
    match Argument.acceptsAll e.payload.args? call.args with
    | .ok accepted => accepted
    | .error _ => false

/-- The call is of the expected kind and its query matches the pattern, if there is one. -/
def recognises (e : Expectation) (call : Call) : Bool :=
  e.kind == call.kind && e.payload.pattern?.all (·.isMatch call.query)

/-- Why the arguments of a call cannot be compared with those of a pending expectation that
recognises it. -/
def incomparable? (e : Expectation) (call : Call) : Option Incomparable :=
  if !e.fulfilled && e.recognises call then
    match Argument.acceptsAll e.payload.args? call.args with
    | .ok _ => none
    | .error failure => some failure
  else none

/-- An attempt with the call claims the expectation. -/
def takes (e : Expectation) (call : Call) : Bool :=
  !e.fulfilled && e.fits call

def fulfil (e : Expectation) : Expectation :=
  { e with fulfilled := true }

/-- A scan with the call ends at the expectation: an ordered scan at all that are pending, an
unordered one only at a claim. -/
def stops (ordered : Bool) (call : Call) (e : Expectation) : Bool :=
  if ordered then !e.fulfilled else e.takes call

@[simp] theorem fulfilled_fulfil (e : Expectation) : e.fulfil.fulfilled = true := rfl

@[simp] theorem takes_fulfil (e : Expectation) (call : Call) : e.fulfil.takes call = false := rfl

@[simp] theorem stops_fulfil (ordered : Bool) (call : Call) (e : Expectation) :
    e.fulfil.stops ordered call = false := by
  cases ordered <;> rfl

theorem stops_of_fulfilled {e : Expectation} (h : e.fulfilled = true) (ordered : Bool)
    (call : Call) : e.stops ordered call = false := by
  cases ordered <;> simp [stops, takes, h]

theorem pending_of_stops {e : Expectation} {call : Call} {ordered : Bool}
    (h : e.stops ordered call = true) : e.fulfilled = false := by
  cases hDone : e.fulfilled with
  | false => rfl
  | true => simp [stops_of_fulfilled hDone] at h

theorem incomparable?_of_fulfilled {e : Expectation} (h : e.fulfilled = true) (call : Call) :
    e.incomparable? call = none := by
  simp [incomparable?, h]

theorem pending_of_takes {e : Expectation} {call : Call} (h : e.takes call = true) :
    e.fulfilled = false := by
  simp only [takes, Bool.and_eq_true, Bool.not_eq_true'] at h
  exact h.1

theorem fits_of_takes {e : Expectation} {call : Call} (h : e.takes call = true) :
    e.fits call = true := by
  simp only [takes, Bool.and_eq_true] at h
  exact h.2

theorem kind_of_takes {e : Expectation} {call : Call} (h : e.takes call = true) :
    e.kind = call.kind := by
  have hFits := fits_of_takes h
  simp only [fits, Bool.and_eq_true, beq_iff_eq] at hFits
  exact hFits.1.1

/-- What can be claimed ends every scan with the same call, in either order. -/
theorem stops_of_takes {e : Expectation} {call : Call} (ordered : Bool)
    (h : e.takes call = true) : e.stops ordered call = true := by
  cases ordered with
  | false => exact h
  | true => simp [stops, pending_of_takes h]

theorem takes_eq_false_of_stops_eq_false {e : Expectation} {call : Call} {ordered : Bool}
    (h : e.stops ordered call = false) : e.takes call = false := by
  cases hTakes : e.takes call with
  | false => rfl
  | true => simp [stops_of_takes ordered hTakes] at h

/-- An expectation of the call's kind refuses the call exactly when it does not fit. -/
theorem rejection?_eq_none_iff {e : Expectation} {call : Call} (hKind : e.kind = call.kind) :
    e.rejection? call = none ↔ e.fits call = true := by
  unfold rejection? rejection?.rejectedArguments? fits
  cases e.payload.pattern? with
  | none =>
    cases Argument.acceptsAll e.payload.args? call.args with
    | error failure => simp [hKind]
    | ok accepted => cases accepted <;> simp [hKind]
  | some pattern =>
    cases hMatch : pattern.isMatch call.query with
    | false => simp [hKind, hMatch]
    | true =>
      cases Argument.acceptsAll e.payload.args? call.args with
      | error failure => simp [hKind, hMatch]
      | ok accepted => cases accepted <;> simp [hKind, hMatch]

theorem kind_of_recognises {e : Expectation} {call : Call} (h : e.recognises call = true) :
    e.kind = call.kind := by
  simp only [recognises, Bool.and_eq_true, beq_iff_eq] at h
  exact h.1

theorem fits_of_recognises {e : Expectation} {call : Call} (h : e.recognises call = true)
    (hArgs : Argument.acceptsAll e.payload.args? call.args = .ok true) : e.fits call = true := by
  unfold recognises at h
  simp [fits, h, hArgs]

/-- A query that does not match is refused whatever the arguments are. -/
theorem rejection?_of_not_isMatch {e : Expectation} {call : Call} {pattern : QueryPattern}
    (hPattern : e.payload.pattern? = some pattern) (hMatch : pattern.isMatch call.query = false) :
    e.rejection? call = some (.query pattern.text) := by
  simp [rejection?, hPattern, hMatch]

/-- A call that is recognised can only be refused for its arguments. -/
theorem rejection?_of_recognises {e : Expectation} {call : Call} (h : e.recognises call = true) :
    e.rejection? call = rejection?.rejectedArguments? e call := by
  unfold rejection?
  cases hPattern : e.payload.pattern? with
  | none => rfl
  | some pattern =>
    simp only [recognises, hPattern, Option.all_some, Bool.and_eq_true] at h
    simp [h.2]

/-- An attempt claims what takes the call, with the outcome declared so far. -/
theorem attempt_of_takes {e : Expectation} {call : Call} (h : e.takes call = true) :
    e.attempt call = .claimed e.outcome := by
  have hFits := fits_of_takes h
  have hKind := kind_of_takes h
  simp [attempt, pending_of_takes h, hKind, (rejection?_eq_none_iff hKind).mpr hFits]

theorem takes_of_attempt {e : Expectation} {call : Call} {outcome : Outcome}
    (h : e.attempt call = .claimed outcome) : e.takes call = true := by
  unfold attempt at h
  split at h
  · cases h
  · rename_i hPending
    split at h
    · cases h
    · rename_i hKind
      rw [ne_eq, Decidable.not_not] at hKind
      split at h
      · cases h
      · rename_i hNone
        simp [takes, hPending, (rejection?_eq_none_iff hKind).mp hNone]

/-- An attempt reports an expectation as fulfilled exactly when it is. -/
theorem attempt_eq_alreadyFulfilled_iff {e : Expectation} {call : Call} :
    e.attempt call = .alreadyFulfilled ↔ e.fulfilled = true := by
  unfold attempt
  split
  · simp_all
  · split
    · simp_all
    · split <;> simp_all

/-- An attempt on a pending expectation of the call's kind is decided by what is to be refused. -/
theorem attempt_of_pending {e : Expectation} {call : Call} (hPending : e.fulfilled = false)
    (hKind : e.kind = call.kind) :
    e.attempt call = (e.rejection? call).elim (.claimed e.outcome) .rejected := by
  cases hRejection : e.rejection? call <;> simp [attempt, hPending, hKind, hRejection]

/-- An attempt fails to compare exactly where a pending expectation recognises the call and cannot
compare its arguments. -/
theorem attempt_eq_conversion_iff {e : Expectation} {call : Call} {failure : Incomparable} :
    e.attempt call = .rejected (.conversion failure) ↔ e.incomparable? call = some failure := by
  cases hDone : e.fulfilled with
  | true => simp [attempt, incomparable?, hDone]
  | false =>
    by_cases hKind : e.kind = call.kind
    · rw [attempt_of_pending hDone hKind]
      cases hRecognises : e.recognises call with
      | true =>
        rw [rejection?_of_recognises hRecognises, rejection?.rejectedArguments?, incomparable?, hDone,
          hRecognises]
        cases Argument.acceptsAll e.payload.args? call.args with
        | error failure' => simp
        | ok accepted => cases accepted <;> simp
      | false =>
        simp only [recognises, hKind, BEq.rfl, Bool.true_and] at hRecognises
        cases hPattern : e.payload.pattern? with
        | none => simp [hPattern] at hRecognises
        | some pattern =>
          rw [hPattern, Option.all_some] at hRecognises
          rw [rejection?_of_not_isMatch hPattern hRecognises]
          simp [incomparable?, recognises, hPattern, hRecognises]
    · simp [attempt, incomparable?, recognises, hDone, hKind]

@[simp] theorem tryClaim_fst (e : Expectation) (call : Call) :
    (e.tryClaim call).1 = e.attempt call := by
  unfold tryClaim
  split
  · rename_i h
    exact h.symm
  · rfl

theorem tryClaim_snd (e : Expectation) (call : Call) :
    (e.tryClaim call).2 = if e.takes call then e.fulfil else e := by
  unfold tryClaim
  split
  · rename_i h
    rw [if_pos (takes_of_attempt h)]
    rfl
  · rename_i hNone
    rw [if_neg]
    intro hTakes
    exact hNone _ (attempt_of_takes hTakes)

end ScriptedDb.Expectation
