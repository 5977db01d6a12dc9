import ScriptedDb.Dispatch.Report
import ScriptedDb.Expectation.Fit

/-! What a scan has learned on the way matters only where nothing stops it. `scan_cases` says this
once; all that follows about calls rests on it. -/

namespace ScriptedDb

/-- The verdict of a scan that ends with an attempt on the expectation at `index`. -/
def Attempt.verdict? (index : Nat) : Attempt → Option Verdict
  | .alreadyFulfilled => none
  | .wrongKind => some (.outOfOrder index)
  | .rejected rejection => some (.rejected index rejection)
  | .claimed outcome => some (.claimed index outcome)

/-- The verdict of a scan that ends at an expectation without claiming it. -/
theorem Expectation.claimed?_of_refuses {e : Expectation} {call : Call} {index : Nat} {v : Verdict}
    (hTakes : e.takes call = false) (hVerdict : (e.attempt call).verdict? index = some v) :
    v.claimed? = none := by
  cases hAttempt : e.attempt call with
  | claimed outcome =>
    rw [takes_of_attempt hAttempt] at hTakes
    cases hTakes
  | alreadyFulfilled => simp [hAttempt, Attempt.verdict?] at hVerdict
  | wrongKind | rejected =>
    simp only [hAttempt, Attempt.verdict?, Option.some.injEq] at hVerdict
    subst hVerdict
    rfl

namespace Progress

/-- What a scan has learned after it went past an expectation. -/
def pass (p : Progress) (call : Call) (index : Nat) (e : Expectation) : Progress :=
  match e.attempt call with
  | .alreadyFulfilled => { p with fulfilled := p.fulfilled + 1 }
  | .rejected (.conversion failure) => p.note index failure
  | _ => p

/-- What a scan has learned after it went past expectations, the first of which is at `index`. -/
def passAll (p : Progress) (call : Call) (index : Nat) : List Expectation → Progress
  | [] => p
  | e :: rest => (p.pass call index e).passAll call (index + 1) rest

theorem passAll_append (p : Progress) (call : Call) (index : Nat) (l more : List Expectation) :
    p.passAll call index (l ++ more) =
      (p.passAll call index l).passAll call (index + l.length) more := by
  induction l generalizing p index with
  | nil => rfl
  | cons e rest ih =>
    have hIndex : index + (rest.length + 1) = index + 1 + rest.length := by omega
    simp only [List.cons_append, passAll, ih, List.length_cons, hIndex]

theorem observe_of_pass {ordered : Bool} {call : Call} {e : Expectation}
    (h : e.stops ordered call = false) (p : Progress) (index : Nat) :
    p.observe ordered index (e.attempt call) = .inl (p.pass call index e) := by
  cases ordered with
  | true =>
    have hDone : e.fulfilled = true := by simpa [Expectation.stops] using h
    simp [pass, observe, Expectation.attempt_eq_alreadyFulfilled_iff.mpr hDone]
  | false =>
    cases hAttempt : e.attempt call with
    | alreadyFulfilled => simp [pass, observe, hAttempt]
    | wrongKind => simp [pass, observe, hAttempt]
    | rejected rejection => cases rejection <;> simp [pass, observe, hAttempt]
    | claimed outcome =>
      have hTakes := Expectation.takes_of_attempt hAttempt
      simp [Expectation.stops, hTakes] at h

/-- An expectation that stops a scan decides its verdict, whatever the scan has learned before. -/
theorem observe_of_stop {ordered : Bool} {call : Call} {e : Expectation}
    (h : e.stops ordered call = true) (index : Nat) :
    ∃ verdict, (e.attempt call).verdict? index = some verdict ∧
      ∀ p : Progress, p.observe ordered index (e.attempt call) = .inr verdict := by
  cases ordered with
  | false =>
    have hAttempt : e.attempt call = .claimed e.outcome := Expectation.attempt_of_takes h
    exact ⟨_, by rw [hAttempt]; rfl, fun p => by rw [hAttempt]; rfl⟩
  | true =>
    have hPending : e.fulfilled = false := by simpa [Expectation.stops] using h
    cases hAttempt : e.attempt call with
    | alreadyFulfilled =>
      rw [Expectation.attempt_eq_alreadyFulfilled_iff.mp hAttempt] at hPending
      cases hPending
    | wrongKind => exact ⟨_, rfl, fun p => rfl⟩
    | rejected rejection => exact ⟨_, rfl, fun p => rfl⟩
    | claimed outcome => exact ⟨_, rfl, fun p => rfl⟩

end Progress

/-- The expectation at `index` is the first one with a property. -/
structure First (p : Expectation → Bool) (records : List Expectation) (index : Nat)
    (e : Expectation) : Prop where
  found : records[index]? = some e
  holds : p e = true
  before : ∀ e' ∈ records.take index, p e' = false

theorem First.findIdx?_eq {p : Expectation → Bool} {records : List Expectation} {index : Nat}
    {e : Expectation} (h : First p records index e) : records.findIdx? p = some index := by
  obtain ⟨hLt, rfl⟩ := List.getElem?_eq_some_iff.mp h.found
  rw [List.findIdx?_eq_some_iff_getElem]
  refine ⟨hLt, h.holds, fun j hj => ?_⟩
  simp [h.before records[j] (List.mem_take_iff_getElem.mpr ⟨j, by omega, rfl⟩)]

theorem First.find?_eq {p : Expectation → Bool} {records : List Expectation} {index : Nat}
    {e : Expectation} (h : First p records index e) : records.find? p = some e := by
  obtain ⟨hLt, rfl⟩ := List.getElem?_eq_some_iff.mp h.found
  rw [List.find?_eq_some_iff_getElem]
  refine ⟨h.holds, index, hLt, rfl, fun j hj => ?_⟩
  simp [h.before records[j] (List.mem_take_iff_getElem.mpr ⟨j, by omega, rfl⟩)]

/-- Some expectation is the first one with a property, or none has it. -/
theorem exists_first_or_forall (p : Expectation → Bool) (records : List Expectation) :
    (∃ index e, First p records index e) ∨ ∀ e ∈ records, p e = false := by
  cases hFind : records.findIdx? p with
  | none => exact .inr (List.findIdx?_eq_none_iff.mp hFind)
  | some index =>
    left
    obtain ⟨hLt, hHolds, hBefore⟩ := List.findIdx?_eq_some_iff_getElem.mp hFind
    refine ⟨index, records[index], List.getElem?_eq_getElem hLt, hHolds, ?_⟩
    intro e he
    obtain ⟨j, hj, rfl⟩ := List.mem_take_iff_getElem.mp he
    simpa using hBefore j (by omega)

/-- What comes before the first one, that one, and the rest. -/
theorem First.eq_append {p : Expectation → Bool} {records : List Expectation} {index : Nat}
    {e : Expectation} (h : First p records index e) :
    records = records.take index ++ e :: records.drop (index + 1) := by
  obtain ⟨hLt, rfl⟩ := List.getElem?_eq_some_iff.mp h.found
  simp

variable {ordered : Bool} {call : Call}

/-- Nothing among the first `count` expectations stops a scan with the call. -/
def Passes (ordered : Bool) (call : Call) (records : List Expectation) (count : Nat) : Prop :=
  ∀ e ∈ records.take count, e.stops ordered call = false

theorem Passes.zero (ordered : Bool) (call : Call) (records : List Expectation) :
    Passes ordered call records 0 := by
  intro e he
  simp at he

theorem Passes.succ {records : List Expectation} {index : Nat} {e : Expectation}
    (h : Passes ordered call records index) (he : records[index]? = some e)
    (hPass : e.stops ordered call = false) : Passes ordered call records (index + 1) := by
  intro e' he'
  rw [List.take_add_one, he] at he'
  rcases List.mem_append.mp he' with he' | he'
  · exact h e' he'
  · obtain rfl : e' = e := by simpa using he'
    exact hPass

/-- Claims by others stop no scan where it has passed already. -/
theorem Passes.set_fulfil {records : List Expectation} {count : Nat}
    (h : Passes ordered call records count) (index : Nat) (e : Expectation) :
    Passes ordered call (records.set index e.fulfil) count := by
  intro e' he'
  rw [List.take_set] at he'
  rcases List.mem_or_eq_of_mem_set he' with he' | rfl
  · exact h e' he'
  · exact Expectation.stops_fulfil ordered call e

/-- What stops a scan lies beyond all that the scan has passed. -/
theorem Passes.le_of_stops {records : List Expectation} {count index : Nat} {e : Expectation}
    (h : Passes ordered call records count) (he : records[index]? = some e)
    (hStop : e.stops ordered call = true) : count ≤ index := by
  rcases Nat.lt_or_ge index count with hLt | hLe
  · have hTake : (records.take count)[index]? = some e := by
      rw [List.getElem?_take_of_lt hLt, he]
    rw [h e (List.mem_of_getElem? hTake)] at hStop
    cases hStop
  · exact hLe

theorem Passes.eq_of_stops {records : List Expectation} {i j : Nat} {e e' : Expectation}
    (hi : Passes ordered call records i) (he : records[i]? = some e)
    (hStop : e.stops ordered call = true) (hj : Passes ordered call records j)
    (he' : records[j]? = some e') (hStop' : e'.stops ordered call = true) : i = j ∧ e = e' := by
  have hEq : i = j := Nat.le_antisymm (hi.le_of_stops he' hStop') (hj.le_of_stops he hStop)
  subst hEq
  exact ⟨rfl, Option.some.inj (he.symm.trans he')⟩

/-- What an attempt leaves of the expectations: one of them is fulfilled if it takes the call. -/
theorem set_tryClaim {records : List Expectation} {index : Nat} {e : Expectation}
    (he : records[index]? = some e) :
    records.set index (e.tryClaim call).2 =
      if e.takes call then records.set index e.fulfil else records := by
  obtain ⟨hLt, rfl⟩ := List.getElem?_eq_some_iff.mp he
  rw [Expectation.tryClaim_snd]
  split
  · rfl
  · exact List.set_getElem_self hLt

/-- A scan goes past expectations that do not stop it and leaves them as they are. -/
theorem scan_append {l : List Expectation} (h : ∀ e ∈ l, e.stops ordered call = false)
    (index : Nat) (p : Progress) (more : List Expectation) :
    scan ordered call index p (l ++ more) =
      ((scan ordered call (index + l.length) (p.passAll call index l) more).1,
        l ++ (scan ordered call (index + l.length) (p.passAll call index l) more).2) := by
  induction l generalizing index p with
  | nil => rfl
  | cons e rest ih =>
    have hPass := h e List.mem_cons_self
    have hSame : (e.tryClaim call).2 = e := by
      rw [Expectation.tryClaim_snd, Expectation.takes_eq_false_of_stops_eq_false hPass]
      rfl
    have hIndex : index + (rest.length + 1) = index + 1 + rest.length := by omega
    simp only [List.cons_append, scan, Expectation.tryClaim_fst, Progress.observe_of_pass hPass,
      ih (fun e' he' => h e' (List.mem_cons_of_mem _ he')), hSame, Progress.passAll,
      List.length_cons, hIndex]

/-- A scan that nothing stops runs to the end and changes nothing. -/
theorem scan_of_passes {records : List Expectation}
    (h : Passes ordered call records records.length) :
    scan ordered call 0 {} records =
      (.exhausted (({} : Progress).passAll call 0 records), records) := by
  have hAll : ∀ e ∈ records, e.stops ordered call = false := by
    simpa [Passes] using h
  have hScan := scan_append hAll 0 {} []
  simpa [scan] using hScan

/-- A scan ends at the first expectation that stops it and changes no other one. -/
theorem scan_of_stop {records : List Expectation} {index : Nat} {e : Expectation}
    (h : Passes ordered call records index) (he : records[index]? = some e)
    (hStop : e.stops ordered call = true) :
    ∃ verdict, (e.attempt call).verdict? index = some verdict ∧
      scan ordered call 0 {} records = (verdict, records.set index (e.tryClaim call).2) := by
  obtain ⟨hLt, rfl⟩ := List.getElem?_eq_some_iff.mp he
  obtain ⟨verdict, hVerdict, hObserve⟩ := Progress.observe_of_stop hStop index
  refine ⟨verdict, hVerdict, ?_⟩
  have hLength : (records.take index).length = index := by simp; omega
  have hSplit : records = records.take index ++ records[index] :: records.drop (index + 1) := by
    simp
  have hScan := scan_append h 0 {} (records[index] :: records.drop (index + 1))
  rw [← hSplit, hLength, Nat.zero_add] at hScan
  rw [hScan]
  simp only [scan, Expectation.tryClaim_fst, hObserve]
  rw [List.set_eq_take_append_cons_drop, if_pos hLt]

/-- All that a scan can do: run to the end, or stop at the first expectation that stops it. -/
theorem scan_cases (ordered : Bool) (call : Call) (records : List Expectation) :
    (Passes ordered call records records.length ∧
      scan ordered call 0 {} records =
        (.exhausted (({} : Progress).passAll call 0 records), records)) ∨
    ∃ index e verdict, records[index]? = some e ∧ Passes ordered call records index ∧
      e.stops ordered call = true ∧ (e.attempt call).verdict? index = some verdict ∧
      scan ordered call 0 {} records = (verdict, records.set index (e.tryClaim call).2) := by
  rcases exists_first_or_forall (Expectation.stops ordered call) records with
    ⟨index, e, hFirst⟩ | hNone
  · right
    obtain ⟨verdict, hVerdict, hScan⟩ := scan_of_stop hFirst.before hFirst.found hFirst.holds
    exact ⟨index, e, verdict, hFirst.found, hFirst.before, hFirst.holds, hVerdict, hScan⟩
  · left
    have hPasses : Passes ordered call records records.length := by
      intro e he
      exact hNone e (List.mem_of_mem_take he)
    exact ⟨hPasses, scan_of_passes hPasses⟩

/-- A scan changes the expectations by at most one claim. -/
theorem records_scan (ordered : Bool) (call : Call) (records : List Expectation) :
    (scan ordered call 0 {} records).2 = records ∨ ∃ index e, records[index]? = some e ∧
      e.takes call = true ∧ (scan ordered call 0 {} records).2 = records.set index e.fulfil := by
  rcases scan_cases ordered call records with
    ⟨hPasses, hScan⟩ | ⟨index, e, v, he, hPasses, hStop, hVerdict, hScan⟩
  · rw [hScan]
    exact .inl rfl
  · rw [hScan, set_tryClaim he]
    cases hTakes : e.takes call with
    | true => exact .inr ⟨index, e, he, hTakes, rfl⟩
    | false => exact .inl rfl

end ScriptedDb
