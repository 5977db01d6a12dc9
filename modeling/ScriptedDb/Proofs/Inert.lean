import ScriptedDb.Proofs.Session.Serve

/-! A dispatch goes as if the pending expectations were the whole script, with the place of the
claimed one counted anew. -/

namespace ScriptedDb

def pending (records : List Expectation) : List Expectation :=
  records.filter fun e => !e.fulfilled

/-- The place that the expectation at an index has among the pending ones: how many of them come
before it. -/
def placeAmongPending (records : List Expectation) (index : Nat) : Nat :=
  (pending (records.take index)).length

/-- A claim among the pending expectations alone. -/
def Claim.amongPending (records : List Expectation) (claim : Claim) : Claim :=
  { claim with index := placeAmongPending records claim.index }

variable {records : List Expectation} {index : Nat} {e : Expectation} {call : Call}

@[simp] theorem pending_append (l more : List Expectation) :
    pending (l ++ more) = pending l ++ pending more :=
  List.filter_append ..

theorem pending_cons_of_fulfilled (h : e.fulfilled = true) (l : List Expectation) :
    pending (e :: l) = pending l :=
  List.filter_cons_of_neg (by simp [h])

theorem pending_cons_of_pending (h : e.fulfilled = false) (l : List Expectation) :
    pending (e :: l) = e :: pending l :=
  List.filter_cons_of_pos (by simp [h])

theorem take_pending (records : List Expectation) (index : Nat) :
    (pending records).take (placeAmongPending records index) = pending (records.take index) := by
  have hSplit : pending records = pending (records.take index) ++ pending (records.drop index) := by
    rw [← pending_append, List.take_append_drop]
  rw [hSplit]
  exact List.take_left

theorem pending_eq_append (he : records[index]? = some e) (hPending : e.fulfilled = false) :
    pending records =
      pending (records.take index) ++ e :: pending (records.drop (index + 1)) := by
  obtain ⟨hLt, rfl⟩ := List.getElem?_eq_some_iff.mp he
  rw [← pending_cons_of_pending hPending, ← pending_append]
  simp

/-- The same expectation is at the one place and at the other. -/
theorem getElem?_pending (he : records[index]? = some e) (hPending : e.fulfilled = false) :
    (pending records)[placeAmongPending records index]? = some e := by
  rw [pending_eq_append he hPending, placeAmongPending]
  simp

/-- A property that only pending expectations have is first had by the same one. -/
theorem First.pending {p : Expectation → Bool} (hFirst : First p records index e)
    (hPending : e.fulfilled = false) :
    First p (pending records) (placeAmongPending records index) e where
  found := getElem?_pending hFirst.found hPending
  holds := hFirst.holds
  before := by
    intro e' he'
    rw [take_pending] at he'
    exact hFirst.before e' (List.mem_of_mem_filter he')

/-- What is fulfilled adds nothing to a search that finds nothing in it. -/
theorem findSome?_pending {β : Type} {f : Expectation → Option β}
    (hNone : ∀ e, e.fulfilled = true → f e = none) (records : List Expectation) :
    (pending records).findSome? f = records.findSome? f := by
  induction records with
  | nil => rfl
  | cons e rest ih =>
    cases hDone : e.fulfilled with
    | true =>
      rw [pending_cons_of_fulfilled hDone, ih, List.findSome?_cons, hNone e hDone]
    | false =>
      rw [pending_cons_of_pending hDone, List.findSome?_cons, List.findSome?_cons, ih]

/-- A call that nothing stops is told the same. All pending expectations are fulfilled only if there are
none. -/
theorem unmatched_pending (strict : Bool) (call : Call) (records : List Expectation) :
    unmatched strict call (pending records) = unmatched strict call records := by
  have hFailed := findSome?_pending
    (f := fun e => (e.incomparable? call).map fun failure => (e.describe, failure))
    (fun e hDone => by rw [Expectation.incomparable?_of_fulfilled hDone, Option.map_none]) records
  have hAll : (pending records).all Expectation.fulfilled = records.all Expectation.fulfilled := by
    simp [pending, List.all_filter]
  rw [unmatched, unmatched, hFailed, hAll]

/-- A dispatch among the pending expectations alone answers as among all of them. -/
theorem answer_dispatch_pending (config : Config) (call : Call) (records : List Expectation) :
    (dispatch config call (pending records)).answer =
      (dispatch config call records).answer.map (Option.map (Claim.amongPending records)) := by
  rcases exists_first_or_forall (Expectation.stops config.ordered call) records with
    ⟨index, e, hFirst⟩ | hNone
  · have hAlone := hFirst.pending (Expectation.pending_of_stops hFirst.holds)
    cases hTakes : e.takes call with
    | true =>
      rw [(dispatch_of_first_takes config hFirst hTakes).1,
        (dispatch_of_first_takes config hAlone hTakes).1]
      rfl
    | false =>
      rw [(dispatch_of_first_refuses config hFirst hTakes).1,
        (dispatch_of_first_refuses config hAlone hTakes).1]
      rfl
  · have hAlone : ∀ e ∈ pending records, e.stops config.ordered call = false :=
      fun e he => hNone e (List.mem_of_mem_filter he)
    rw [(dispatch_of_none config hNone).1, (dispatch_of_none config hAlone).1, unmatched_pending]
    obtain ⟨error, hAnswer, -⟩ | ⟨-, hAnswer⟩ :=
      unmatched_cases config.requireExpectations call records
    · rw [hAnswer]
      rfl
    · rw [hAnswer]
      rfl

/-- What is fulfilled and what is declared later play no part in a call. Among the pending expectations
alone it has the same answer, and claims the same expectation at its place there. What it claims it
still claims when more is declared, and what is declared more stays as it is. -/
theorem fulfilled_and_later_inert (config : Config) (call : Call) (records : List Expectation) :
    (dispatch config call (pending records)).answer =
        (dispatch config call records).answer.map (Option.map (Claim.amongPending records)) ∧
    ∀ claim, (dispatch config call records).answer = .ok (some claim) →
      (∃ e, records[claim.index]? = some e ∧
        (pending records)[placeAmongPending records claim.index]? = some e ∧
        (dispatch config call records).state = records.set claim.index e.fulfil ∧
        (dispatch config call (pending records)).state =
          (pending records).set (placeAmongPending records claim.index) e.fulfil) ∧
      ∀ more, (dispatch config call (records ++ more)).answer = .ok (some claim) ∧
        (dispatch config call (records ++ more)).state =
          (dispatch config call records).state ++ more := by
  refine ⟨answer_dispatch_pending config call records, ?_⟩
  intro claim hClaim
  rcases dispatch_cases config call records with
    ⟨index, e, he, hPasses, hTakes, hAnswer, hState⟩ | ⟨-, ⟨error, hError, -⟩ | ⟨-, hNothing⟩, -⟩
  · obtain rfl : ⟨index, e.outcome⟩ = claim := by simpa [hAnswer] using hClaim
    have hStop := Expectation.stops_of_takes config.ordered hTakes
    have hAlone := (First.mk he hStop hPasses).pending (Expectation.pending_of_takes hTakes)
    obtain ⟨hLt, -⟩ := List.getElem?_eq_some_iff.mp he
    refine ⟨⟨e, he, hAlone.found, hState, (dispatch_of_first_takes config hAlone hTakes).2⟩, ?_⟩
    · intro more
      have hPassesMore : Passes config.ordered call (records ++ more) index := by
        intro e' he'
        rw [List.take_append_of_le_length (Nat.le_of_lt hLt)] at he'
        exact hPasses e' he'
      have heMore : (records ++ more)[index]? = some e := by
        rw [List.getElem?_append_left hLt, he]
      rw [dispatch_of_takes hPassesMore heMore hTakes, hState, List.set_append_left _ _ hLt]
      exact ⟨rfl, rfl⟩
  · rw [hError] at hClaim
    cases hClaim
  · rw [hNothing] at hClaim
    cases hClaim

/-- A commit claims the third expectation, and the second one among those that are pending. -/
theorem fulfilled_and_later_inert_commit :
    ∃ (records : List Expectation) (claim : Claim),
      records.map (fun e => (e.kind, e.fulfilled)) =
        [(.begin, true), (.begin, false), (.commit, false)] ∧
      claim.index = 2 ∧ (claim.amongPending records).index = 1 ∧
      (dispatch .concurrent (.bare .commit) (pending records)).answer =
        .ok (some (claim.amongPending records)) ∧
      (dispatch .concurrent (.bare .commit) (records ++ [{ payload := .commit }])).answer =
        .ok (some claim) := by
  let records : List Expectation :=
    [{ payload := .begin, fulfilled := true }, { payload := .begin }, { payload := .commit }]
  have hClaim : (dispatch .concurrent (.bare .commit) records).answer = .ok (some ⟨2, {}⟩) := rfl
  obtain ⟨hAlone, hLater⟩ := fulfilled_and_later_inert .concurrent (.bare .commit) records
  rw [hClaim] at hAlone
  exact ⟨records, ⟨2, {}⟩, rfl, rfl, rfl, hAlone, ((hLater _ hClaim).2 _).1⟩

end ScriptedDb
