import ScriptedDb.Proofs.Clients.Steps

/-! Sessions, connections and entries of tables belong to the creation that made the session, also
where a connection string is drawn twice. -/

namespace ScriptedDb.Clients

variable {c c' : Clients} {move : Move} {table : TableId} {dsn : String} {id : SessionId}

/-- A section changes one table at one connection string. -/
theorem find?_of_tables {t : TableId} {d : String} {changed : ConnectionTable}
    (hTables : ∀ t', c'.world.table t' = if t' = t then changed else c.world.table t')
    (hChanged : ∀ d', d' ≠ d → changed.find? d' = (c.world.table t).find? d')
    (hPlace : (table, dsn) ≠ (t, d)) :
    (c'.world.table table).find? dsn = (c.world.table table).find? dsn := by
  rw [hTables]
  split
  · subst table
    exact hChanged dsn fun hSame => hPlace (hSame ▸ rfl)
  · rfl

theorem Registers.find?_of_ne {t : TableId} {d : String} (h : c.Registers c' t d id)
    (hPlace : (table, dsn) ≠ (t, d)) :
    (c'.world.table table).find? dsn = (c.world.table table).find? dsn :=
  find?_of_tables h.tables (fun _ hNe => by rw [ConnectionTable.find?_register, if_neg hNe]) hPlace

theorem Registers.find?_eq (h : c.Registers c' table dsn id) :
    (c'.world.table table).find? dsn = some ⟨id, 0⟩ := by
  rw [h.tables, if_pos rfl, ConnectionTable.find?_register, if_pos rfl]

theorem Opens.find?_of_ne {t : TableId} {d : String} (h : c.Opens c' t d id)
    (hPlace : (table, dsn) ≠ (t, d)) :
    (c'.world.table table).find? dsn = (c.world.table table).find? dsn :=
  find?_of_tables h.tables (fun _ hNe => ConnectionTable.find?_attach_of_ne hNe id) hPlace

theorem Closes.find?_of_ne {t : TableId} {d : String} (h : c.Closes c' t d id)
    (hPlace : (table, dsn) ≠ (t, d)) :
    (c'.world.table table).find? dsn = (c.world.table table).find? dsn :=
  find?_of_tables h.tables (fun _ hNe => ConnectionTable.find?_release_of_ne hNe) hPlace

theorem Grows.called (h : c.Grows c') (hCalled : c.dsns[id]? = some dsn) :
    c'.dsns[id]? = some dsn := by
  obtain ⟨more, hMore⟩ := h.dsns
  obtain ⟨hIndex, -⟩ := List.getElem?_eq_some_iff.mp hCalled
  rw [← hMore, List.getElem?_append_left hIndex, hCalled]

namespace Grounded

theorem start : Grounded {} where
  known h := by cases h
  called h := by
    obtain ⟨_, hMem, -⟩ := h
    cases hMem
  table_eq h := by
    obtain ⟨_, hMem, -⟩ := h
    cases hMem
  entry h := by cases h
  connection h := by cases h

/-- Where nothing is made, it is enough that names, entries and connections are grounded in what was
made before. -/
theorem of_made_eq (h : c.Grounded) (hGrows : c.Grows c') (hMade : c'.Made = c.Made)
    (hKnown : ∀ t d, (t, d) ∈ c'.names → t < c.world.tables.length)
    (hEntry : ∀ t d e, (c'.world.table t).find? d = some e → c.Made t d e.session)
    (hConnection : ∀ x ∈ c'.connections, ∃ d, c.Made x.table d x.session) : c'.Grounded where
  known {t d} hName := Nat.lt_of_lt_of_le (hKnown t d hName) hGrows.tables
  called {t d id} hNow := by
    rw [hMade] at hNow
    exact hGrows.called (h.called hNow)
  table_eq hNow hNow' := by
    rw [hMade] at hNow hNow'
    exact h.table_eq hNow hNow'
  entry {t d e} hFind := by
    rw [hMade]
    exact hEntry t d e hFind
  connection {x} hMem := by
    rw [hMade]
    exact hConnection x hMem

/-- The index that the next session gets is not in use. -/
theorem not_made_of_fresh (h : c.Grounded) (hFresh : id = c.world.sessions.length) :
    ¬ c.Made table dsn id := by
  intro hMade
  obtain ⟨hIndex, -⟩ := List.getElem?_eq_some_iff.mp (h.called hMade)
  simp [dsns, hFresh] at hIndex

theorem quiet (h : c.Grounded) (hGrows : c.Grows c') (hQuiet : c.Quiet c') : c'.Grounded := by
  refine h.of_made_eq hGrows hQuiet.made ?_ ?_ ?_
  · rw [hQuiet.names]
    exact fun t d => h.known
  · rw [hQuiet.tables]
    exact fun t d e => h.entry
  · rw [hQuiet.connections]
    exact fun x => h.connection

theorem name (h : c.Grounded) (hGrows : c.Grows c') (hNames : c.Names c' table) :
    c'.Grounded := by
  refine h.of_made_eq hGrows hNames.made ?_ ?_ ?_
  · intro t d hMem
    rw [hNames.names, List.mem_append, List.mem_singleton] at hMem
    rcases hMem with hOld | hNew
    · exact h.known hOld
    · cases hNew
      exact hNames.known
  · intro t d e hFind
    rw [hNames.tables] at hFind
    split at hFind
    · subst t
      exact h.entry hFind
    · exact h.entry hFind
  · rw [connections, hNames.handles]
    exact fun x => h.connection

theorem register (h : c.Grounded) (hGrows : c.Grows c') (hRegisters : c.Registers c' table dsn id) :
    c'.Grounded := by
  have hOld {t : TableId} {d : String} {id' : SessionId} (hMade : c.Made t d id') :
      c'.Made t d id' := (hRegisters.made t d id').mpr (.inl hMade)
  have hNew : c'.Made table dsn id := (hRegisters.made table dsn id).mpr (.inr ⟨rfl, rfl, rfl⟩)
  have hFresh {t : TableId} {d : String} : ¬ c.Made t d id := h.not_made_of_fresh hRegisters.fresh
  refine ⟨?_, ?_, ?_, ?_, ?_⟩
  · intro t d hName
    rw [hRegisters.names] at hName
    exact Nat.lt_of_lt_of_le (h.known hName) hGrows.tables
  · intro t d id' hMade
    rcases (hRegisters.made t d id').mp hMade with hMade | ⟨rfl, rfl, rfl⟩
    · exact hGrows.called (h.called hMade)
    · exact hRegisters.called
  · intro t t' d d' id' hMade hMade'
    rcases (hRegisters.made t d id').mp hMade with hMade | ⟨rfl, rfl, rfl⟩ <;>
      rcases (hRegisters.made t' d' _).mp hMade' with hMade' | ⟨rfl, rfl, hId⟩
    · exact h.table_eq hMade hMade'
    · exact absurd (hId ▸ hMade) hFresh
    · exact absurd hMade' hFresh
    · rfl
  · intro t d e hFind
    by_cases hPlace : (t, d) = (table, dsn)
    · cases hPlace
      rw [hRegisters.find?_eq] at hFind
      cases hFind
      exact hNew
    · exact hOld (h.entry (hRegisters.find?_of_ne hPlace ▸ hFind))
  · intro x hMem
    rw [connections, hRegisters.handles] at hMem
    obtain ⟨d, hMade⟩ := h.connection hMem
    exact ⟨d, hOld hMade⟩

theorem opens (h : c.Grounded) (hGrows : c.Grows c') (hOpens : c.Opens c' table dsn id) :
    c'.Grounded := by
  refine h.of_made_eq hGrows hOpens.made ?_ ?_ ?_
  · rw [hOpens.names]
    exact fun t d => h.known
  · intro t d e hFind
    by_cases hPlace : (t, d) = (table, dsn)
    · cases hPlace
      rw [hOpens.tables, if_pos rfl] at hFind
      rcases ConnectionTable.session_of_find?_attach hFind with rfl | ⟨e', hOld, hSame⟩
      · exact hOpens.known
      · exact hSame ▸ h.entry hOld
    · exact h.entry (hOpens.find?_of_ne hPlace ▸ hFind)
  · intro x hMem
    rw [hOpens.connections, List.mem_append, List.mem_singleton] at hMem
    rcases hMem with hOld | rfl
    · exact h.connection hOld
    · exact ⟨dsn, hOpens.known⟩

theorem closes (h : c.Grounded) (hGrows : c.Grows c') (hCloses : c.Closes c' table dsn id) :
    c'.Grounded := by
  refine h.of_made_eq hGrows hCloses.made ?_ ?_ ?_
  · rw [hCloses.names]
    exact fun t d => h.known
  · intro t d e hFind
    by_cases hPlace : (t, d) = (table, dsn)
    · cases hPlace
      rw [hCloses.tables, if_pos rfl] at hFind
      obtain ⟨e', hOld, hSame⟩ := ConnectionTable.session_of_find?_release hFind
      exact hSame ▸ h.entry hOld
    · exact h.entry (hCloses.find?_of_ne hPlace ▸ hFind)
  · rw [hCloses.connections]
    exact fun x => h.connection

theorem ne_of_made {t : TableId} {d : String} {id' : SessionId} (h : c.Grounded)
    (hMade : c.Made table dsn id) (hMade' : c.Made t d id') (hPlace : (table, dsn) ≠ (t, d)) :
    id ≠ id' := by
  rintro rfl
  have hDsn : dsn = d := (h.session_dsn hMade).symm.trans (h.session_dsn hMade')
  rw [h.table_eq hMade hMade', hDsn] at hPlace
  exact hPlace rfl

theorem step (h : c.Grounded) (hStep : c.step move = some c') : c'.Grounded := by
  obtain ⟨hGrows, hQuiet | ⟨_, hNames⟩ | ⟨_, _, _, hRegisters⟩ | ⟨_, _, _, hOpens⟩ |
    ⟨_, _, _, hCloses⟩⟩ := step_cases h hStep
  · exact h.quiet hGrows hQuiet
  · exact h.name hGrows hNames
  · exact h.register hGrows hRegisters
  · exact h.opens hGrows hOpens
  · exact h.closes hGrows hCloses

end Grounded

/-- Moves made one after another by evaluation bring about what they lead to. -/
theorem Reachable.foldlM {moves : List Move} (h : c.Reachable)
    (hMoves : moves.foldlM Clients.step c = some c') : c'.Reachable := by
  induction moves generalizing c with
  | nil =>
    cases hMoves
    exact h
  | cons move moves ih =>
    rw [List.foldlM_cons, Option.bind_eq_bind, Option.bind_eq_some_iff] at hMoves
    obtain ⟨middle, hStep, hRest⟩ := hMoves
    exact ih (h.step hStep) hRest

theorem Reachable.grounded (h : c.Reachable) : c.Grounded := by
  induction h with
  | start => exact .start
  | step _ hStep ih => exact ih.step hStep

end ScriptedDb.Clients
