import Mathlib.Data.List.Dedup
import Mathlib.Data.List.FinRange
import Mathlib.Data.List.Forall2
import ScriptedDb.Proofs.Race.Run

/-! A call takes effect at its last attempt. The verdicts of the serial order differ only in what an
unordered scan may have learned about expectations that were claimed after it went past them. -/

namespace ScriptedDb

/-- Scan for calls one after another: the verdicts, and the expectations afterwards. -/
def scanAll (ordered : Bool) : List Call → List Expectation → List Verdict × List Expectation
  | [], records => ([], records)
  | call :: calls, records =>
    let (verdict, records) := scan ordered call 0 {} records
    let (verdicts, records) := scanAll ordered calls records
    (verdict :: verdicts, records)

theorem scanAll_concat (ordered : Bool) (calls : List Call) (call : Call)
    (records : List Expectation) :
    scanAll ordered (calls ++ [call]) records =
      ((scanAll ordered calls records).1 ++
          [(scan ordered call 0 {} (scanAll ordered calls records).2).1],
        (scan ordered call 0 {} (scanAll ordered calls records).2).2) := by
  induction calls generalizing records with
  | nil => rfl
  | cons first calls ih => simp only [List.cons_append, scanAll, ih]

/-- Without expectations there is nothing to learn and nothing to claim. -/
theorem scanAll_nil_records (ordered : Bool) (calls : List Call) :
    scanAll ordered calls [] = (calls.map fun _ => .exhausted {}, []) := by
  induction calls with
  | nil => rfl
  | cons call calls ih => simp only [scanAll, scan, ih, List.map_cons]

/-- Equal up to what a scan learned that ran to the end. -/
def Verdict.Similar : Verdict → Verdict → Prop
  | .exhausted _, .exhausted _ => True
  | v, w => v = w

theorem Verdict.Similar.refl (v : Verdict) : v.Similar v := by
  cases v <;> simp [Verdict.Similar]

namespace Race

variable {n : Nat} {α : Type} {ordered : Bool} {racers : Fin n → Racer α} {r r' : Race n α}
  {i : Fin n}

/-- The calls that have made attempts, in the order of their last ones. -/
def lastAttempts (turns : List (Turn n)) : List (Fin n) :=
  (turns.filterMap Turn.attempt?).dedup

/-- All calls, in the order of their last attempts. Calls without any attempt come first; at the end
of a race there are such calls only if there are no expectations. -/
def serialOrder (turns : List (Turn n)) : List (Fin n) :=
  (List.finRange n).filter (· ∉ lastAttempts turns) ++ lastAttempts turns

theorem serialOrder_perm (turns : List (Turn n)) :
    (serialOrder turns).Perm (List.finRange n) := by
  have hLast : (lastAttempts turns).Nodup := List.nodup_dedup _
  have hNodup : (serialOrder turns).Nodup := by
    refine List.Nodup.append ((List.nodup_finRange n).filter _) hLast ?_
    intro j hj hj'
    simp [hj'] at hj
  rw [List.perm_ext_iff_of_nodup hNodup (List.nodup_finRange n)]
  intro j
  by_cases hj : j ∈ lastAttempts turns <;> simp [serialOrder, hj]

/-- A new last occurrence takes the place of the earlier one. -/
theorem dedup_concat {β : Type} [DecidableEq β] (l : List β) (b : β) :
    (l ++ [b]).dedup = l.dedup.filter (· ≠ b) ++ [b] := by
  induction l with
  | nil => simp
  | cons a l ih =>
    by_cases hMem : a ∈ l
    · rw [List.cons_append, List.dedup_cons_of_mem (List.mem_append_left _ hMem), ih,
        List.dedup_cons_of_mem hMem]
    · by_cases hEq : a = b
      · subst hEq
        rw [List.cons_append, List.dedup_cons_of_mem (by simp), ih,
          List.dedup_cons_of_notMem hMem, List.filter_cons_of_neg (by simp)]
      · rw [List.cons_append, List.dedup_cons_of_notMem (by simp [hMem, hEq]), ih,
          List.dedup_cons_of_notMem hMem, List.filter_cons_of_pos (by simpa using hEq),
          List.cons_append]

/-- An attempt moves its call to the end of the order and leaves the order of the others. -/
theorem filter_serialOrder_attempt (turns : List (Turn n)) (i : Fin n)
    {before after : Fin n → Bool} (hBefore : before i = false)
    (hOthers : ∀ j, j ≠ i → after j = before j) :
    (serialOrder (turns ++ [.attempt i])).filter after =
      (serialOrder turns).filter before ++ [i].filter after := by
  have hLast : lastAttempts (turns ++ [.attempt i]) =
      (lastAttempts turns).filter (· ≠ i) ++ [i] := by
    simp only [lastAttempts, List.filterMap_append]
    exact dedup_concat _ i
  have hSide (j : Fin n) : (after j && decide (j ≠ i)) = before j := by
    by_cases hj : j = i
    · simp [hj, hBefore]
    · simp [hj, hOthers j hj]
  have hFirst (j : Fin n) :
      (after j && decide (j ∉ lastAttempts (turns ++ [.attempt i]))) =
        (before j && decide (j ∉ lastAttempts turns)) := by
    rw [← hSide j, hLast]
    by_cases hj : j = i <;> simp [hj]
  simp only [serialOrder, List.filter_append, List.filter_filter, hFirst]
  rw [hLast, List.filter_append, List.filter_filter, ← List.append_assoc]
  simp only [hSide]

theorem serialOrder_answer (turns : List (Turn n)) (i : Fin n) :
    serialOrder (turns ++ [.answer i]) = serialOrder turns := by
  have hNone : [(.answer i : Turn n)].filterMap Turn.attempt? = [] := rfl
  have hLast : lastAttempts (turns ++ [.answer i]) = lastAttempts turns := by
    rw [lastAttempts, List.filterMap_append, hNone, List.append_nil]
    rfl
  unfold serialOrder
  rw [hLast]

def isOver (r : Race n α) (i : Fin n) : Bool :=
  (r.stages i).verdict?.isSome

/-- An attempt that does not end its scan changes no expectation. One that does changes them as a
whole scan would at that moment, and ends with the verdict of that scan. -/
theorem Run.attempt_cases {records : List Expectation} {turns : List (Turn n)}
    (run : Run ordered racers (start records) turns r)
    (last : r.step ordered racers (.attempt i) = some r') :
    ((r'.stages i).verdict? = none ∧ r'.records = r.records) ∨
    ∃ v w, (r'.stages i).verdict? = some v ∧
      scan ordered (racers i).call 0 {} r.records = (w, r'.records) ∧ v.Similar w ∧
      (Contested ordered racers → v = w) := by
  have run' := run.succ last
  obtain ⟨next, p, e, hStage, he, ⟨hStop, rfl⟩ | ⟨hStop, verdict, hVerdict, rfl⟩⟩ :=
    step_attempt_cases last
  · obtain ⟨hLt, -⟩ := List.getElem?_eq_some_iff.mp he
    rcases Nat.lt_or_ge (next + 1) r.records.length with hMore | hEnd
    · left
      simp [Stage.reach, hMore, Stage.verdict?]
    · right
      have hNext : next + 1 = r.records.length := by omega
      have hReached := Stage.reached?_reach (α := α) hLt (p.pass (racers i).call next e)
      have hStage' : ((r.setStage i (.reach r.records.length (next + 1)
          (p.pass (racers i).call next e))).stages i).reached? r.records.length =
            some (r.records.length, p.pass (racers i).call next e) := by
        simpa [hNext] using hReached
      have hPasses := (run'.reached hStage').passes
      refine ⟨.exhausted (p.pass (racers i).call next e), _, ?_, scan_of_passes hPasses,
        by simp [Verdict.Similar], ?_⟩
      · simp [Stage.reach, Nat.not_lt.mpr hEnd, Stage.verdict?]
      · intro hContested
        have hProgress := run'.progress_of_contested hContested hStage'
        rw [records_setStage, List.take_length] at hProgress
        rw [hProgress]
  · right
    have hReached := run.reached (i := i) (by rw [hStage]; rfl)
    obtain ⟨w, hw, hScan⟩ := scan_of_stop hReached.passes he hStop
    obtain rfl : w = verdict := Option.some.inj (hw.symm.trans hVerdict)
    exact ⟨w, w, by simp [Stage.verdict?], hScan, .refl w, fun _ => rfl⟩

/-- The verdict of a call in a race, and the verdict of its scan in the serial order. -/
def Matches (ordered : Bool) (racers : Fin n → Racer α) (verdict? : Option Verdict)
    (serial : Verdict) : Prop :=
  ∃ v, verdict? = some v ∧ v.Similar serial ∧ (Contested ordered racers → v = serial)

/-- The calls whose scans are over would have found and left the same expectations by scanning one
after another, in the order of their last attempts. -/
structure Serialized (ordered : Bool) (racers : Fin n → Racer α) (records : List Expectation)
    (turns : List (Turn n)) (r : Race n α) : Prop where
  records_eq : (scanAll ordered
    (((serialOrder turns).filter r.isOver).map fun i => (racers i).call) records).2 = r.records
  verdicts : List.Forall₂ (Matches ordered racers)
    (((serialOrder turns).filter r.isOver).map fun i => (r.stages i).verdict?)
    (scanAll ordered (((serialOrder turns).filter r.isOver).map fun i => (racers i).call)
      records).1

namespace Serialized

variable {records : List Expectation} {turns : List (Turn n)}

/-- Before the first turn no scan is over, or there is nothing to scan. -/
theorem start (ordered : Bool) (racers : Fin n → Racer α) (records : List Expectation) :
    Serialized ordered racers records [] (Race.start records) := by
  cases records with
  | nil =>
    refine ⟨?_, ?_⟩
    · rw [scanAll_nil_records]
      rfl
    · rw [scanAll_nil_records, List.map_map, List.forall₂_map_left_iff,
        List.forall₂_map_right_iff, List.forall₂_same]
      intro i _
      exact ⟨.exhausted {}, rfl, trivial, fun _ => rfl⟩
  | cons e rest =>
    have hNone : (serialOrder ([] : List (Turn n))).filter
        (isOver (Race.start (e :: rest) : Race n α)) = [] := by
      simp [isOver, Race.start, Stage.reach, Stage.verdict?]
    refine ⟨?_, ?_⟩
    · rw [hNone]
      rfl
    · rw [hNone]
      exact .nil

theorem answer (h : Serialized ordered racers records turns r)
    (last : r.step ordered racers (.answer i) = some r') :
    Serialized ordered racers records (turns ++ [.answer i]) r' := by
  have hRecords : r'.records = r.records := by
    obtain ⟨verdict, -, rfl⟩ := step_answer_cases last
    rfl
  have hVerdict (j : Fin n) : (r'.stages j).verdict? = (r.stages j).verdict? :=
    verdict?_step last (by simp)
  have hOver : r'.isOver = r.isOver := by
    funext j
    simp only [isOver, hVerdict]
  refine ⟨?_, ?_⟩
  · simpa only [serialOrder_answer, hOver, hRecords] using h.records_eq
  · simpa only [serialOrder_answer, hOver, hVerdict] using h.verdicts

/-- An attempt that ends its scan adds one scan at the end; any other adds none. -/
theorem attempt (h : Serialized ordered racers records turns r)
    (prior : Run ordered racers (Race.start records) turns r)
    (last : r.step ordered racers (.attempt i) = some r') :
    Serialized ordered racers records (turns ++ [.attempt i]) r' := by
  have hOver : r.isOver i = false := by
    obtain ⟨next, p, e, hStage, -⟩ := step_attempt_cases last
    simp [isOver, hStage, Stage.verdict?]
  have hOthers (j : Fin n) (hj : j ≠ i) : r'.stages j = r.stages j := stages_step last hj
  have hOrder := filter_serialOrder_attempt turns i hOver
    (fun j hj => by simp only [isOver, hOthers j hj] : ∀ j, j ≠ i → r'.isOver j = r.isOver j)
  have hSame : ((serialOrder turns).filter r.isOver).map (fun j => (r'.stages j).verdict?) =
      ((serialOrder turns).filter r.isOver).map fun j => (r.stages j).verdict? := by
    refine List.map_congr_left fun j hj => ?_
    have hNe : j ≠ i := by
      rintro rfl
      simp [hOver] at hj
    rw [hOthers j hNe]
  rcases prior.attempt_cases last with ⟨hScanning, hRecords⟩ | ⟨v, w, hv, hScan, hSimilar, hEq⟩
  · have hNone : [i].filter r'.isOver = [] := by simp [isOver, hScanning]
    rw [hNone, List.append_nil] at hOrder
    refine ⟨?_, ?_⟩
    · rw [hOrder, h.records_eq, hRecords]
    · rw [hOrder, hSame]
      exact h.verdicts
  · have hOne : [i].filter r'.isOver = [i] := by simp [isOver, hv]
    rw [hOne] at hOrder
    refine ⟨?_, ?_⟩
    · rw [hOrder, List.map_append, List.map_singleton, scanAll_concat, h.records_eq, hScan]
    · rw [hOrder, List.map_append, List.map_append, List.map_singleton, List.map_singleton,
        scanAll_concat, h.records_eq, hScan, hSame]
      exact List.rel_append h.verdicts (.cons ⟨v, hv, hSimilar, hEq⟩ .nil)

end Serialized

/-- At every moment of a race, the scans that are over can be put one after another. -/
theorem Run.serialized {records : List Expectation} {turns : List (Turn n)}
    (run : Run ordered racers (start records) turns r) :
    Serialized ordered racers records turns r := by
  induction run with
  | zero => exact .start ordered racers records
  | @succ turns turn r r' prior last ih =>
    cases turn with
    | attempt i => exact ih.attempt prior last
    | answer i => exact ih.answer last

end Race

end ScriptedDb
