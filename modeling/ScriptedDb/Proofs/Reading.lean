import ScriptedDb.Rows.Reading

/-! `Rows.next_cases` says what one reading does. What repeated reading yields is followed row by
row up to the first fault or the end. -/

namespace ScriptedDb.Rows

variable {r : Rows} {ops : List Operation}

/-- All that a reading can do: nothing, once reading has ended; or it ends at a fault or past the last
row; or it yields the row at the cursor and moves on. -/
theorem next_cases (r : Rows) :
    (r.exhausted = true ∧ r.next = (none, r)) ∨
    (∃ fault, r.exhausted = false ∧ r.faultAt? r.cursor = some fault ∧
      r.next = (some (.error (.injected fault)), { r with exhausted := true })) ∨
    (r.exhausted = false ∧ r.faultAt? r.cursor = none ∧ r.rows.length ≤ r.cursor ∧
      r.next = (none, { r with exhausted := true })) ∨
    (∃ row, r.exhausted = false ∧ r.faultAt? r.cursor = none ∧ r.rows[r.cursor]? = some row ∧
      r.next = (some (.ok row), { r with cursor := r.cursor + 1 })) := by
  cases hExhausted : r.exhausted with
  | true => exact .inl ⟨rfl, by rw [next, if_pos hExhausted]⟩
  | false =>
    right
    cases hFault : r.faultAt? r.cursor with
    | some fault => exact .inl ⟨fault, rfl, rfl, by simp [next, hExhausted, hFault]⟩
    | none =>
      right
      cases hRow : r.rows[r.cursor]? with
      | none =>
        have hEnd : r.rows.length ≤ r.cursor := by simpa using hRow
        exact .inl ⟨rfl, rfl, hEnd, by simp [next, hExhausted, hFault, hRow]⟩
      | some row => exact .inr ⟨row, rfl, rfl, rfl, by simp [next, hExhausted, hFault, hRow]⟩

theorem next_of_exhausted (h : r.exhausted = true) : r.next = (none, r) := by
  rw [next, if_pos h]

@[simp] theorem rows_next (r : Rows) : r.next.2.rows = r.rows := by
  rcases r.next_cases with ⟨-, h⟩ | ⟨_, -, -, h⟩ | ⟨-, -, -, h⟩ | ⟨_, -, -, -, h⟩ <;> rw [h]

@[simp] theorem faultAt?_next (r : Rows) (index : Nat) :
    r.next.2.faultAt? index = r.faultAt? index := by
  rcases r.next_cases with ⟨-, h⟩ | ⟨_, -, -, h⟩ | ⟨-, -, -, h⟩ | ⟨_, -, -, -, h⟩ <;> rw [h] <;> rfl

/-- Reading is over after a reading exactly if that yielded nothing or a fault. -/
theorem exhausted_next (r : Rows) : r.next.2.exhausted = isFinal r.next.1 := by
  rcases r.next_cases with ⟨hOver, h⟩ | ⟨_, -, -, h⟩ | ⟨-, -, -, h⟩ | ⟨_, hOpen, -, -, h⟩
  · simp [h, hOver, isFinal]
  · simp [h, isFinal]
  · simp [h, isFinal]
  · simp [h, hOpen, isFinal]

/-- The only error that a reading yields is the fault at the cursor. -/
theorem exists_fault_of_next {e : Error} (h : r.next.1 = some (.error e)) :
    ∃ fault, e = .injected fault ∧ r.faultAt? r.cursor = some fault := by
  rcases r.next_cases with ⟨-, hNext⟩ | ⟨_, -, hFault, hNext⟩ | ⟨-, -, -, hNext⟩ | ⟨_, -, -, -, hNext⟩
  · simp [hNext] at h
  · rw [hNext] at h
    cases h
    exact ⟨_, rfl, hFault⟩
  · simp [hNext] at h
  · simp [hNext] at h

theorem after_cons (r : Rows) (op : Operation) (ops : List Operation) :
    r.after (op :: ops) = (r.operate op).after ops := rfl

theorem after_append (r : Rows) (ops more : List Operation) :
    r.after (ops ++ more) = (r.after ops).after more :=
  List.foldl_append

theorem exhausted_operate (h : r.exhausted = true) (op : Operation) :
    (r.operate op).exhausted = true := by
  cases op with
  | addRow | rowError => exact h
  | next => rw [operate, next_of_exhausted h, h]

/-- Once reading is over it stays over, whatever is added. -/
theorem exhausted_after (h : r.exhausted = true) (ops : List Operation) :
    (r.after ops).exhausted = true := by
  induction ops generalizing r with
  | nil => exact h
  | cons op ops ih => exact ih (exhausted_operate h op)

theorem cursor_le_operate (r : Rows) (op : Operation) : r.cursor ≤ (r.operate op).cursor := by
  cases op with
  | addRow | rowError => exact Nat.le_refl r.cursor
  | next =>
    rw [operate]
    rcases r.next_cases with ⟨-, h⟩ | ⟨_, -, -, h⟩ | ⟨-, -, -, h⟩ | ⟨_, -, -, -, h⟩ <;>
      simp [h]

theorem cursor_le_after (r : Rows) (ops : List Operation) : r.cursor ≤ (r.after ops).cursor := by
  induction ops generalizing r with
  | nil => exact Nat.le_refl r.cursor
  | cons op ops ih => exact Nat.le_trans (r.cursor_le_operate op) (ih (r.operate op))

theorem cursor_le_length_operate (h : r.cursor ≤ r.rows.length) (op : Operation) :
    (r.operate op).cursor ≤ (r.operate op).rows.length := by
  cases op with
  | addRow values =>
    simp only [operate, addRow, List.length_append, List.length_singleton]
    omega
  | rowError => exact h
  | next =>
    rw [operate, rows_next]
    rcases r.next_cases with ⟨-, hNext⟩ | ⟨_, -, -, hNext⟩ | ⟨-, -, -, hNext⟩ |
      ⟨row, -, -, hRow, hNext⟩
    · simpa [hNext] using h
    · simpa [hNext] using h
    · simpa [hNext] using h
    · obtain ⟨hLt, -⟩ := List.getElem?_eq_some_iff.mp hRow
      rw [hNext]
      exact hLt

theorem cursor_le_length_after (h : r.cursor ≤ r.rows.length) (ops : List Operation) :
    (r.after ops).cursor ≤ (r.after ops).rows.length := by
  induction ops generalizing r with
  | nil => exact h
  | cons op ops ih => exact ih (cursor_le_length_operate h op)

theorem rows_operate (r : Rows) (op : Operation) :
    (r.operate op).rows = r.rows ++ op.row?.toList := by
  cases op with
  | addRow values => rfl
  | rowError => simp [operate, rowError, Operation.row?]
  | next => simp [operate, Operation.row?]

theorem rows_after (r : Rows) (ops : List Operation) : (r.after ops).rows = r.rows ++ added ops := by
  induction ops generalizing r with
  | nil => simp [after, added]
  | cons op ops ih =>
    rw [after_cons, ih, rows_operate, List.append_assoc, added, added]
    cases h : op.row? <;> simp [h]

theorem faultAt?_operate (r : Rows) (op : Operation) (index : Nat) :
    (r.operate op).faultAt? index = (op.fault? index).or (r.faultAt? index) := by
  cases op with
  | addRow => rfl
  | rowError i fault =>
    by_cases h : i = index
    · simp [operate, rowError, faultAt?, Operation.fault?, h]
    · have hNe : (index == i) = false := by simpa using fun hEq : index = i => h hEq.symm
      simp [operate, rowError, faultAt?, Operation.fault?, h, List.lookup_cons, hNe]
  | next => simp [operate, Operation.fault?]

/-- What counts at an index is what was registered there last. -/
theorem faultAt?_after (r : Rows) (ops : List Operation) (index : Nat) :
    (r.after ops).faultAt? index = (lastRegistered ops index).or (r.faultAt? index) := by
  induction ops generalizing r with
  | nil => simp [after, lastRegistered]
  | cons op ops ih =>
    rw [after_cons, ih, faultAt?_operate, lastRegistered, lastRegistered, ← Option.or_assoc]
    cases h : op.fault? index <;> simp [h, List.getLast?_cons]

theorem HasEnded.cons {op : Operation} (h : (r.operate op).HasEnded ops) : r.HasEnded (op :: ops) := by
  obtain ⟨earlier, later, rfl, hFinal⟩ := h
  exact ⟨op :: earlier, later, rfl, hFinal⟩

/-- Reading is over exactly if some operation has read what ends it. -/
theorem exhausted_after_iff (hOpen : r.exhausted = false) :
    (r.after ops).exhausted = true ↔ r.HasEnded ops := by
  constructor
  · intro hOver
    induction ops generalizing r with
    | nil =>
      rw [after, List.foldl_nil, hOpen] at hOver
      cases hOver
    | cons op ops ih =>
      cases hStep : (r.operate op).exhausted with
      | false => exact (ih hStep hOver).cons
      | true =>
        cases op with
        | addRow | rowError =>
          rw [operate] at hStep
          exact absurd (hOpen.symm.trans hStep) (by decide)
        | next =>
          rw [operate, exhausted_next] at hStep
          exact ⟨[], ops, rfl, hStep⟩
  · rintro ⟨earlier, later, rfl, hFinal⟩
    rw [after_append, after_cons]
    apply exhausted_after
    rw [operate, exhausted_next, hFinal]

theorem yields_of_exhausted (h : r.exhausted = true) : r.Yields [] := by
  intro n
  induction n with
  | zero => simp [advance, next_of_exhausted h]
  | succ n ih => rwa [advance, next_of_exhausted h]

theorem yields_cons {item : Except Error Row} {items : List (Except Error Row)}
    (hItem : r.next.1 = some item) (hItems : r.next.2.Yields items) : r.Yields (item :: items) := by
  intro n
  cases n with
  | zero => exact hItem
  | succ n => exact hItems n

/-- At a fault, reading yields it and ends. -/
theorem yields_fault (hOpen : r.exhausted = false) {fault : Fault}
    (hFault : r.faultAt? r.cursor = some fault) : r.Yields [.error (.injected fault)] := by
  have hNext : r.next = (some (.error (.injected fault)), { r with exhausted := true }) := by
    simp [next, hOpen, hFault]
  apply yields_cons
  · rw [hNext]
  · rw [hNext]
    exact yields_of_exhausted rfl

theorem yields_nil (hFault : r.faultAt? r.cursor = none) (hEnd : r.rows.length ≤ r.cursor) :
    r.Yields [] := by
  have hRow : r.rows[r.cursor]? = none := List.getElem?_eq_none hEnd
  intro n
  cases n with
  | zero => cases hOver : r.exhausted <;> simp [advance, next, hOver, hFault, hRow]
  | succ n =>
    refine (yields_of_exhausted ?_ : r.next.2.Yields []) n
    rw [exhausted_next]
    cases hOver : r.exhausted <;> simp [next, hOver, hFault, hRow, isFinal]

/-- Rows without a fault before or at them are yielded one by one, and then what comes after them. -/
theorem yields_rows_append (hOpen : r.exhausted = false) {count : Nat}
    (hLength : r.cursor + count ≤ r.rows.length)
    (hFaults : ∀ i, r.cursor ≤ i → i < r.cursor + count → r.faultAt? i = none)
    {items : List (Except Error Row)}
    (hItems : ({ r with cursor := r.cursor + count } : Rows).Yields items) :
    r.Yields (((r.rows.drop r.cursor).take count).map .ok ++ items) := by
  induction count generalizing r with
  | zero => simpa using hItems
  | succ count ih =>
    have hLt : r.cursor < r.rows.length := by omega
    have hFault := hFaults r.cursor (Nat.le_refl _) (by omega)
    have hNext : r.next = (some (.ok r.rows[r.cursor]), { r with cursor := r.cursor + 1 }) := by
      simp [next, hOpen, hFault, hLt]
    rw [List.drop_eq_getElem_cons hLt, List.take_succ_cons, List.map_cons, List.cons_append]
    apply yields_cons
    · rw [hNext]
    · rw [hNext]
      apply ih (r := { r with cursor := r.cursor + 1 }) hOpen
      · show r.cursor + 1 + count ≤ r.rows.length
        omega
      · intro i hi hLast
        exact hFaults i (Nat.le_of_succ_le hi) (by simp only at hLast; omega)
      · show ({ r with cursor := r.cursor + 1 + count } : Rows).Yields items
        rwa [Nat.add_assoc, Nat.add_comm 1]

/-- With a fault ahead that is not past the end, the rows before it are yielded and then the fault. -/
theorem yields_of_nextFault (hOpen : r.exhausted = false) {index : Nat} {fault : Fault}
    (hNext : r.NextFault index fault) (hIndex : index ≤ r.rows.length) :
    r.Yields ((r.rows.extract r.cursor index).map .ok ++ [.error (.injected fault)]) := by
  have hCursor : r.cursor + (index - r.cursor) = index := Nat.add_sub_cancel' hNext.ahead
  apply yields_rows_append hOpen
  · omega
  · intro i hi hLt
    exact hNext.first i hi (by omega)
  · rw [hCursor]
    exact yields_fault (r := { r with cursor := index }) hOpen hNext.registered

/-- Where a fault is registered ahead there is a first one. -/
theorem exists_nextFault {index : Nat} (hAhead : r.cursor ≤ index)
    (hFault : (r.faultAt? index).isSome = true) :
    ∃ least fault, r.NextFault least fault ∧ least ≤ index := by
  induction index using Nat.strongRecOn with
  | ind index ih =>
    by_cases hEarlier : ∃ i, r.cursor ≤ i ∧ i < index ∧ (r.faultAt? i).isSome = true
    · obtain ⟨i, hi, hLt, hSome⟩ := hEarlier
      obtain ⟨least, fault, hNext, hLe⟩ := ih i hLt hi hSome
      exact ⟨least, fault, hNext, by omega⟩
    · obtain ⟨fault, hRegistered⟩ := Option.isSome_iff_exists.mp hFault
      refine ⟨index, fault, ⟨hAhead, hRegistered, ?_⟩, Nat.le_refl index⟩
      intro i hi hLt
      rw [← Option.not_isSome_iff_eq_none]
      exact fun hSome => hEarlier ⟨i, hi, hLt, hSome⟩

/-- With no fault ahead before or at the end, all that is left of the rows is yielded. -/
theorem yields_of_no_fault (hOpen : r.exhausted = false) (hCursor : r.cursor ≤ r.rows.length)
    (hNone : ¬∃ index fault, r.NextFault index fault ∧ index ≤ r.rows.length) :
    r.Yields ((r.rows.drop r.cursor).map .ok) := by
  have hFaults : ∀ i, r.cursor ≤ i → i ≤ r.rows.length → r.faultAt? i = none := by
    intro i hi hLe
    rw [← Option.not_isSome_iff_eq_none]
    intro hSome
    obtain ⟨least, fault, hNext, hLeast⟩ := exists_nextFault hi hSome
    exact hNone ⟨least, fault, hNext, by omega⟩
  have hLength : r.cursor + (r.rows.length - r.cursor) = r.rows.length := Nat.add_sub_cancel' hCursor
  have hEnd : ({ r with cursor := r.rows.length } : Rows).Yields [] :=
    yields_nil (hFaults _ hCursor (Nat.le_refl _)) (Nat.le_refl _)
  rw [← hLength] at hEnd
  have hYields := yields_rows_append hOpen (Nat.le_of_eq hLength)
    (fun i hi hLt => hFaults i hi (by omega)) hEnd
  rwa [List.append_nil, List.take_of_length_le (by simp)] at hYields

/-- What rows are like that come of columns by the operations. -/
structure ReadsExactly (columns : List String) (ops : List Operation) (r : Rows) : Prop where
  /-- The rows are those that were added, and a fault counts where it was registered last. -/
  rows : r.rows = added ops
  faultAt? : ∀ index, r.faultAt? index = lastRegistered ops index
  exhausted : r.exhausted = true ↔ (ofColumns columns).HasEnded ops
  cursor_le : r.cursor ≤ r.rows.length
  /-- The rows before the next fault and the fault, if it is not past the end; otherwise all rows. -/
  fault_next : r.exhausted = false → ∀ index fault, r.NextFault index fault →
    index ≤ r.rows.length →
    r.Yields ((r.rows.extract r.cursor index).map .ok ++ [.error (.injected fault)])
  no_fault_next : r.exhausted = false →
    (¬∃ index fault, r.NextFault index fault ∧ index ≤ r.rows.length) →
    r.Yields ((r.rows.drop r.cursor).map .ok)
  /-- Whatever is done later, an error that is yielded is the fault that counts where the cursor is by
  then: not behind where it is now, and not past the end. -/
  fault_ahead : ∀ more e, (r.after more).next.1 = some (.error e) → ∃ index fault,
    e = .injected fault ∧ index = (r.after more).cursor ∧ (r.after more).faultAt? index = some fault ∧
      r.cursor ≤ index ∧ index ≤ (r.after more).rows.length
  /-- After a fault or the end nothing is yielded, whatever is done later. -/
  fused : isFinal r.next.1 = true → ∀ more, (r.next.2.after more).next.1 = none

/-- Reading is exact and fused, however building and reading alternated before. -/
theorem reading_exact_and_fused (columns : List String) (ops : List Operation) :
    ReadsExactly columns ops ((ofColumns columns).after ops) := by
  have hCursor := cursor_le_length_after (r := ofColumns columns) (Nat.le_refl 0) ops
  refine ⟨?_, ?_, exhausted_after_iff rfl, hCursor, ?_, ?_, ?_, ?_⟩
  · rw [rows_after]
    rfl
  · intro index
    rw [faultAt?_after]
    exact Option.or_none
  · intro hOpen index fault hNext hIndex
    exact yields_of_nextFault hOpen hNext hIndex
  · intro hOpen hNone
    exact yields_of_no_fault hOpen hCursor hNone
  · intro more e hError
    obtain ⟨fault, rfl, hFault⟩ := exists_fault_of_next hError
    exact ⟨_, fault, rfl, rfl, hFault, cursor_le_after _ more, cursor_le_length_after hCursor more⟩
  · intro hFinal more
    rw [next_of_exhausted]
    apply exhausted_after
    rw [exhausted_next, hFinal]

/-- One row is read and one is left. Of the faults, one is registered below the cursor, two at the end
one after the other, and one beyond it. -/
theorem reading_exact_and_fused_end :
    let r := (ofColumns ["id"]).after [.addRow [.integer 1], .next,
      .rowError 0 ⟨0, .message "early"⟩, .addRow [.integer 2], .rowError 2 ⟨1, .message "first"⟩,
      .rowError 2 ⟨2, .message "second"⟩, .rowError 9 ⟨3, .message "beyond"⟩]
    r.Yields [.ok ⟨[.integer 2]⟩, .error (.injected ⟨2, .message "second"⟩)] := by
  intro r
  have hNext : r.NextFault 2 ⟨2, .message "second"⟩ := by
    refine ⟨by decide, rfl, ?_⟩
    intro i hi hLt
    obtain rfl : i = 1 := Nat.le_antisymm (Nat.le_of_lt_succ hLt) hi
    rfl
  exact (reading_exact_and_fused ["id"] _).fault_next rfl 2 _ hNext (by decide)

end ScriptedDb.Rows
