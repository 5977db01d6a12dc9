import ScriptedDb.Proofs.Race.Serial

/-! How many copies of one call can claim an expectation: in order, only the pending expectations
before the first that does not fit count. -/

namespace ScriptedDb

/-- How many copies of a call can claim an expectation. -/
def capacity (ordered : Bool) (call : Call) (records : List Expectation) : Nat :=
  if ordered then ((records.filter fun e => !e.fulfilled).takeWhile (·.fits call)).length
  else records.countP fun e => !e.fulfilled && e.fits call

variable {ordered : Bool} {call : Call}

theorem capacity_nil (ordered : Bool) (call : Call) : capacity ordered call [] = 0 := by
  cases ordered <;> rfl

theorem capacity_cons_of_pass {e : Expectation} (h : e.stops ordered call = false)
    (records : List Expectation) : capacity ordered call (e :: records) =
      capacity ordered call records := by
  cases ordered with
  | false =>
    have hTakes : (!e.fulfilled && e.fits call) = false := h
    simp [capacity, hTakes]
  | true =>
    have hDone : e.fulfilled = true := by simpa [Expectation.stops] using h
    simp [capacity, hDone]

theorem capacity_cons_of_takes {e : Expectation} (h : e.takes call = true)
    (records : List Expectation) : capacity ordered call (e :: records) =
      capacity ordered call records + 1 := by
  have hPending := Expectation.pending_of_takes h
  have hFits := Expectation.fits_of_takes h
  cases ordered with
  | false => simp [capacity, hPending, hFits]
  | true => simp [capacity, hPending, hFits]

/-- An expectation that is next and refuses the call leaves no copy anything to claim. -/
theorem capacity_cons_of_refuses {e : Expectation} (hStop : e.stops ordered call = true)
    (hTakes : e.takes call = false) (records : List Expectation) :
    capacity ordered call (e :: records) = 0 := by
  cases ordered with
  | false =>
    have hStop : e.takes call = true := hStop
    rw [hTakes] at hStop
    cases hStop
  | true =>
    have hPending : e.fulfilled = false := by simpa [Expectation.stops] using hStop
    have hFits : e.fits call = false := by simpa [Expectation.takes, hPending] using hTakes
    simp [capacity, hPending, hFits]

theorem capacity_append_of_pass {l : List Expectation}
    (h : ∀ e ∈ l, e.stops ordered call = false) (records : List Expectation) :
    capacity ordered call (l ++ records) = capacity ordered call records := by
  induction l with
  | nil => rfl
  | cons e l ih =>
    rw [List.cons_append, capacity_cons_of_pass (h e List.mem_cons_self)]
    exact ih fun e' he' => h e' (List.mem_cons_of_mem _ he')

/-- A scan claims an expectation exactly where there is one to claim, and then there is one less. -/
theorem capacity_scan (ordered : Bool) (call : Call) (records : List Expectation) :
    ((scan ordered call 0 {} records).1.claimed?.isSome = true ∧
      capacity ordered call records =
        capacity ordered call (scan ordered call 0 {} records).2 + 1) ∨
    ((scan ordered call 0 {} records).1.claimed? = none ∧ capacity ordered call records = 0 ∧
      (scan ordered call 0 {} records).2 = records) := by
  rcases scan_cases ordered call records with
    ⟨hPasses, hScan⟩ | ⟨index, e, v, he, hPasses, hStop, hVerdict, hScan⟩
  · right
    have hAll : ∀ e ∈ records, e.stops ordered call = false := by
      simpa [Passes] using hPasses
    have hNone := capacity_append_of_pass hAll []
    rw [List.append_nil, capacity_nil] at hNone
    simp [hScan, Verdict.claimed?, hNone]
  · obtain ⟨hLt, rfl⟩ := List.getElem?_eq_some_iff.mp he
    have hSplit : records =
        records.take index ++ records[index] :: records.drop (index + 1) := by simp
    have hBefore : capacity ordered call records =
        capacity ordered call (records[index] :: records.drop (index + 1)) := by
      conv_lhs => rw [hSplit]
      exact capacity_append_of_pass hPasses _
    rw [hScan, set_tryClaim he]
    cases hTakes : records[index].takes call with
    | true =>
      left
      rw [Expectation.attempt_of_takes hTakes] at hVerdict
      obtain rfl := Option.some.inj hVerdict
      refine ⟨rfl, ?_⟩
      simp only [↓reduceIte, List.set_eq_take_append_cons_drop, if_pos hLt]
      rw [capacity_append_of_pass hPasses, hBefore, capacity_cons_of_takes hTakes,
        capacity_cons_of_pass (Expectation.stops_fulfil ordered call _)]
    | false =>
      right
      exact ⟨Expectation.claimed?_of_refuses hTakes hVerdict,
        hBefore.trans (capacity_cons_of_refuses hStop hTakes _), rfl⟩

/-- Of copies that scan one after another, as many claim an expectation as can. -/
theorem countP_scanAll_replicate (ordered : Bool) (call : Call) (n : Nat)
    (records : List Expectation) :
    (scanAll ordered (List.replicate n call) records).1.countP (·.claimed?.isSome) =
      min n (capacity ordered call records) := by
  induction n generalizing records with
  | zero => simp [scanAll]
  | succ n ih =>
    simp only [List.replicate_succ, scanAll, List.countP_cons, ih]
    rcases capacity_scan ordered call records with ⟨hClaimed, hLess⟩ | ⟨hNone, hZero, hSame⟩
    · simp only [hClaimed, hLess, ↓reduceIte]
      omega
    · simp [hNone, hZero, hSame]

end ScriptedDb
