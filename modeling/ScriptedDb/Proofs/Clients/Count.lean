import ScriptedDb.Proofs.Clients.Grounded

/-! As long as the counter of a table has not come round, no connection string is drawn twice
(`Numbered`). Then every entry counts the open connections on its session (`Counted`). -/

namespace ScriptedDb.Clients

variable {c c' : Clients} {move : Move} {table : TableId} {dsn : String} {id : SessionId}

/-- One more string that a table has not seen keeps all of its strings apart. -/
theorem Distinct.concat {name : TableId × String} (h : c.Distinct table)
    (hNames : c'.names = c.names ++ [name]) (hNew : name.1 = table → name ∉ c.names) :
    c'.Distinct table := by
  have hPlace {dsn : String} {i : Nat} (hi : c'.names[i]? = some (table, dsn)) :
      c.names[i]? = some (table, dsn) ∨ i = c.names.length ∧ name = (table, dsn) := by
    rw [hNames, List.getElem?_append] at hi
    split at hi
    · exact .inl hi
    · rw [List.getElem?_singleton] at hi
      split at hi
      · exact .inr ⟨by omega, Option.some.inj hi⟩
      · cases hi
  have hApart {dsn : String} {i : Nat} (hOld : c.names[i]? = some (table, dsn))
      (hLast : name = (table, dsn)) : False := by
    subst hLast
    exact hNew rfl (List.mem_of_getElem? hOld)
  intro dsn i j hi hj
  rcases hPlace hi with hi | ⟨hi, hLast⟩ <;> rcases hPlace hj with hj | ⟨hj, hLast'⟩
  · exact h dsn i j hi hj
  · exact (hApart hi hLast').elim
  · exact (hApart hj hLast).elim
  · rw [hi, hj]

theorem created_eq (hNames : c'.names = c.names) (table : TableId) :
    c'.created table = c.created table := by
  rw [created, created, hNames]

/-- As many connection strings have been drawn from a table as its counter says, and each has a
smaller number than it. -/
structure Numbered (c : Clients) (table : TableId) : Prop where
  counter : (c.world.table table).nextId.toNat = c.created table
  drawn {dsn : String} : (table, dsn) ∈ c.names →
    ∃ k < c.created table, dsn = ConnectionTable.numbered k
  distinct : c.Distinct table

namespace Numbered

theorem start (table : TableId) : Numbered {} table where
  counter := rfl
  drawn h := by cases h
  distinct dsn i j h := by cases h

theorem of_names_eq (h : c.Numbered table) (hNames : c'.names = c.names)
    (hNext : (c'.world.table table).nextId = (c.world.table table).nextId) :
    c'.Numbered table := by
  have hCreated := created_eq hNames table
  refine ⟨?_, ?_, ?_⟩
  · rw [hNext, hCreated, h.counter]
  · intro dsn
    rw [hNames, hCreated]
    exact h.drawn
  · intro dsn i j
    rw [hNames]
    exact h.distinct dsn i j

theorem created_of_names {t : TableId} (hNames : c.Names c' t) (table : TableId) :
    c'.created table = c.created table + if t = table then 1 else 0 := by
  rw [created, created, hNames.names, List.countP_append, List.countP_singleton]
  simp

/-- A string that is drawn was not drawn before, and goes by the next number. -/
theorem name {t : TableId} (h : c.Numbered table) (hNames : c.Names c' t)
    (hFew : c'.created table < UInt64.size) : c'.Numbered table := by
  have hCreated := created_of_names hNames table
  refine ⟨?_, ?_, h.distinct.concat hNames.names ?_⟩
  · rw [hNames.tables, hCreated]
    split
    · subst table
      rw [if_pos rfl, UInt64.toNat_add, h.counter]
      rw [hCreated, if_pos rfl] at hFew
      exact Nat.mod_eq_of_lt hFew
    · rename_i hOther
      rw [if_neg (Ne.symm hOther), h.counter]
      rfl
  · intro dsn hMem
    rw [hNames.names, List.mem_append, List.mem_singleton] at hMem
    rcases hMem with hOld | hLast
    · obtain ⟨k, hLt, rfl⟩ := h.drawn hOld
      exact ⟨k, by omega, rfl⟩
    · cases hLast
      rw [h.counter]
      rw [if_pos rfl] at hCreated
      exact ⟨c.created table, by omega, rfl⟩
  · -- All strings that were drawn before have smaller numbers.
    intro hTable hMem
    obtain rfl : t = table := hTable
    obtain ⟨k, hLt, hEq⟩ := h.drawn hMem
    rw [h.counter] at hEq
    exact Nat.ne_of_gt hLt (ConnectionTable.numbered_injective hEq)

theorem nextId_of_tables {t : TableId} {changed : ConnectionTable}
    (hTables : ∀ t', c'.world.table t' = if t' = t then changed else c.world.table t')
    (hChanged : changed.nextId = (c.world.table t).nextId) (table : TableId) :
    (c'.world.table table).nextId = (c.world.table table).nextId := by
  rw [hTables]
  split
  · subst table
    exact hChanged
  · rfl

theorem step (h : c.Numbered table) (hGrounded : c.Grounded) (hStep : c.step move = some c')
    (hFew : c'.created table < UInt64.size) : c'.Numbered table := by
  obtain ⟨-, hQuiet | ⟨_, hNames⟩ | ⟨_, _, _, hRegisters⟩ | ⟨_, _, _, hOpens⟩ |
    ⟨_, _, _, hCloses⟩⟩ := step_cases hGrounded hStep
  · exact h.of_names_eq hQuiet.names (by rw [hQuiet.tables])
  · exact h.name hNames hFew
  · exact h.of_names_eq hRegisters.names (nextId_of_tables hRegisters.tables rfl table)
  · exact h.of_names_eq hOpens.names
      (nextId_of_tables hOpens.tables (ConnectionTable.nextId_attach ..) table)
  · exact h.of_names_eq hCloses.names
      (nextId_of_tables hCloses.tables (ConnectionTable.nextId_release ..) table)

end Numbered

theorem created_le_of_step (hGrounded : c.Grounded) (hStep : c.step move = some c')
    (table : TableId) : c.created table ≤ c'.created table := by
  obtain ⟨-, hQuiet | ⟨_, hNames⟩ | ⟨_, _, _, hRegisters⟩ | ⟨_, _, _, hOpens⟩ |
    ⟨_, _, _, hCloses⟩⟩ := step_cases hGrounded hStep
  · exact Nat.le_of_eq (created_eq hQuiet.names table).symm
  · rw [Numbered.created_of_names hNames]
    exact Nat.le_add_right _ _
  · exact Nat.le_of_eq (created_eq hRegisters.names table).symm
  · exact Nat.le_of_eq (created_eq hOpens.names table).symm
  · exact Nat.le_of_eq (created_eq hCloses.names table).symm

theorem Reachable.numbered (h : c.Reachable) (hFew : c.created table < UInt64.size) :
    c.Numbered table := by
  induction h with
  | start => exact .start table
  | step hPrior hStep ih =>
    have hLe := created_le_of_step hPrior.grounded hStep table
    exact (ih (Nat.lt_of_le_of_lt hLe hFew)).step hPrior.grounded hStep hFew

/-- The entry of a connection string counts the open connections on its session. It counts none only
if there never was one, and a session without an entry has none. -/
structure Counted (c : Clients) (table : TableId) (dsn : String) : Prop where
  registered {e : ConnectionTable.Entry} :
    (c.world.table table).find? dsn = some e → e.opened = c.opened e.session ∧
      (e.opened = 0 → ∀ connection ∈ c.connections, connection.session ≠ e.session)
  gone {id : SessionId} :
    (c.world.table table).find? dsn = none → c.Made table dsn id → c.opened id = 0

namespace Counted

theorem start (table : TableId) (dsn : String) : Counted {} table dsn where
  registered h := by cases h
  gone _ h := by
    obtain ⟨_, hMem, -⟩ := h
    cases hMem

/-- A session with open connections has its entry. -/
theorem find?_eq (h : c.Counted table dsn) (hGrounded : c.Grounded) (hDistinct : c.Distinct table)
    (hMade : c.Made table dsn id) (hOpen : 0 < c.opened id) :
    (c.world.table table).find? dsn = some ⟨id, c.opened id⟩ := by
  cases hFind : (c.world.table table).find? dsn with
  | none =>
    rw [h.gone hFind hMade] at hOpen
    cases hOpen
  | some e =>
    obtain rfl := hDistinct.eq_of_made hMade (hGrounded.entry hFind)
    rw [← (h.registered hFind).1]

theorem openCount_eq (h : c.Counted table dsn) (hGrounded : c.Grounded)
    (hDistinct : c.Distinct table) (hMade : c.Made table dsn id) :
    (c.world.table table).openCount dsn = c.opened id := by
  unfold ConnectionTable.openCount
  cases hFind : (c.world.table table).find? dsn with
  | none => rw [Option.elim_none, h.gone hFind hMade]
  | some e =>
    obtain rfl := hDistinct.eq_of_made hMade (hGrounded.entry hFind)
    exact (h.registered hFind).1

theorem of_elsewhere (h : c.Counted table dsn) (hGrounded : c.Grounded)
    (hFind : (c'.world.table table).find? dsn = (c.world.table table).find? dsn)
    (hMade : ∀ id, c'.Made table dsn id → c.Made table dsn id)
    (hOpened : ∀ id, c.Made table dsn id → c'.opened id = c.opened id)
    (hConnections : ∀ id, c.Made table dsn id → ∀ connection ∈ c'.connections,
      connection.session = id → connection ∈ c.connections) : c'.Counted table dsn where
  registered {e} hNow := by
    rw [hFind] at hNow
    have hThere := hGrounded.entry hNow
    obtain ⟨hCount, hNever⟩ := h.registered hNow
    refine ⟨hCount.trans (hOpened _ hThere).symm, fun hZero connection hMem hSession => ?_⟩
    exact hNever hZero connection (hConnections _ hThere connection hMem hSession) hSession
  gone {id} hNow hMadeNow := by
    rw [hFind] at hNow
    have hThere := hMade id hMadeNow
    rw [hOpened id hThere, h.gone hNow hThere]

theorem of_unopened (h : c.Counted table dsn) (hGrounded : c.Grounded)
    (hFind : (c'.world.table table).find? dsn = (c.world.table table).find? dsn)
    (hMade : ∀ id, c'.Made table dsn id → c.Made table dsn id)
    (hOpened : c'.opened = c.opened) (hConnections : c'.connections = c.connections) :
    c'.Counted table dsn :=
  h.of_elsewhere hGrounded hFind hMade (fun _ _ => by rw [hOpened])
    fun _ _ connection hMem _ => hConnections ▸ hMem

theorem register {t : TableId} {d : String} (h : c.Counted table dsn) (hGrounded : c.Grounded)
    (hRegisters : c.Registers c' t d id) : c'.Counted table dsn := by
  have hOpened : c'.opened = c.opened := by
    funext id'
    rw [opened, opened, hRegisters.handles]
  have hConnections : c'.connections = c.connections := by
    rw [connections, connections, hRegisters.handles]
  by_cases hPlace : (table, dsn) = (t, d)
  · cases hPlace
    have hNever : ∀ connection ∈ c.connections, connection.session ≠ id := by
      rintro connection hMem rfl
      obtain ⟨d, hMade⟩ := hGrounded.connection hMem
      exact hGrounded.not_made_of_fresh hRegisters.fresh hMade
    refine ⟨?_, ?_⟩ <;> rw [hRegisters.find?_eq]
    · intro e he
      cases he
      rw [hOpened, hConnections]
      refine ⟨Eq.symm (List.countP_eq_zero.mpr fun handle hMem => ?_), fun _ => hNever⟩
      have hNe := hNever handle.connection (List.mem_map_of_mem hMem)
      simp [hNe]
    · intro id' hNone
      cases hNone
  · refine h.of_unopened hGrounded (hRegisters.find?_of_ne hPlace) ?_ hOpened hConnections
    intro id' hMade
    rcases (hRegisters.made table dsn id').mp hMade with hMade | ⟨hTable, hDsn, -⟩
    · exact hMade
    · exact absurd (by rw [hTable, hDsn]) hPlace

theorem opens {t : TableId} {d : String} (h : c.Counted table dsn) (hGrounded : c.Grounded)
    (hDistinct : c.Distinct table) (hOpens : c.Opens c' t d id) : c'.Counted table dsn := by
  by_cases hPlace : (table, dsn) = (t, d)
  · cases hPlace
    -- The entry before, if there was one, was for the same session.
    have hFind : (c'.world.table table).find? dsn = some ⟨id, c'.opened id⟩ := by
      rw [hOpens.tables, if_pos rfl, ConnectionTable.find?_attach, hOpens.opened, if_pos rfl,
        h.openCount_eq hGrounded hDistinct hOpens.known]
      intro e he
      exact hDistinct.eq_of_made (hGrounded.entry he) hOpens.known
    refine ⟨?_, ?_⟩ <;> rw [hFind]
    · intro e he
      cases he
      refine ⟨rfl, fun hZero => ?_⟩
      simp [hOpens.opened] at hZero
    · intro id' hNone
      cases hNone
  · refine h.of_elsewhere hGrounded (hOpens.find?_of_ne hPlace) ?_ ?_ ?_
    · intro id' hMade
      rwa [hOpens.made] at hMade
    · intro id' hMade
      have hNe := hGrounded.ne_of_made hMade hOpens.known hPlace
      rw [hOpens.opened, if_neg (Ne.symm hNe), Nat.add_zero]
    · rintro id' hMade connection hMem rfl
      rw [hOpens.connections, List.mem_append, List.mem_singleton] at hMem
      rcases hMem with hOld | rfl
      · exact hOld
      · exact absurd rfl (hGrounded.ne_of_made hMade hOpens.known hPlace)

theorem closes {t : TableId} {d : String} (h : c.Counted table dsn) (hGrounded : c.Grounded)
    (hDistinct : c.Distinct table) (hCloses : c.Closes c' t d id) : c'.Counted table dsn := by
  by_cases hPlace : (table, dsn) = (t, d)
  · cases hPlace
    have hOpened := hCloses.opened id
    rw [if_pos rfl] at hOpened
    -- The connection that closes was counted, so its session had an entry.
    have hBefore := h.find?_eq hGrounded hDistinct hCloses.known (by omega)
    rw [← hOpened] at hBefore
    have hFind : (c'.world.table table).find? dsn =
        if c'.opened id = 0 then none else some ⟨id, c'.opened id⟩ := by
      rw [hCloses.tables, if_pos rfl, ConnectionTable.find?_release hBefore]
    refine ⟨?_, ?_⟩ <;> rw [hFind]
    · intro e he
      split at he
      · cases he
      · rename_i hSome
        cases he
        exact ⟨rfl, fun hZero => absurd hZero hSome⟩
    · intro id' hNone hMade
      rw [hCloses.made] at hMade
      obtain rfl := hDistinct.eq_of_made hMade hCloses.known
      split at hNone
      · assumption
      · cases hNone
  · refine h.of_elsewhere hGrounded (hCloses.find?_of_ne hPlace) ?_ ?_ ?_
    · intro id' hMade
      rwa [hCloses.made] at hMade
    · intro id' hMade
      have hNe := hGrounded.ne_of_made hMade hCloses.known hPlace
      have hOpened := hCloses.opened id'
      rwa [if_neg (Ne.symm hNe), Nat.add_zero] at hOpened
    · intro id' _ connection hMem _
      rwa [hCloses.connections] at hMem

theorem step (h : c.Counted table dsn) (hGrounded : c.Grounded) (hDistinct : c.Distinct table)
    (hStep : c.step move = some c') : c'.Counted table dsn := by
  obtain ⟨-, hQuiet | ⟨_, hNames⟩ | ⟨_, _, _, hRegisters⟩ | ⟨_, _, _, hOpens⟩ |
    ⟨_, _, _, hCloses⟩⟩ := step_cases hGrounded hStep
  · refine h.of_unopened hGrounded (by rw [hQuiet.tables]) ?_ hQuiet.opened hQuiet.connections
    intro id hMade
    rwa [hQuiet.made] at hMade
  · refine h.of_unopened hGrounded ?_ ?_ ?_ ?_
    · rw [hNames.tables]
      split
      · subst table
        rfl
      · rfl
    · intro id hMade
      rwa [hNames.made] at hMade
    · funext id
      rw [opened, opened, hNames.handles]
    · rw [connections, connections, hNames.handles]
  · exact h.register hGrounded hRegisters
  · exact h.opens hGrounded hDistinct hOpens
  · exact h.closes hGrounded hDistinct hCloses

end Counted

theorem Reachable.counted (h : c.Reachable) (hFew : c.created table < UInt64.size) (dsn : String) :
    c.Counted table dsn := by
  induction h with
  | start => exact .start table dsn
  | step hPrior hStep ih =>
    have hFewBefore := Nat.lt_of_le_of_lt (created_le_of_step hPrior.grounded hStep table) hFew
    exact (ih hFewBefore).step hPrior.grounded (hPrior.numbered hFewBefore).distinct hStep

end ScriptedDb.Clients
