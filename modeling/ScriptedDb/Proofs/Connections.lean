import ScriptedDb.Proofs.Clients.Count

/-! What connection tables promise in every state that clients can bring about. -/

namespace ScriptedDb

/-- What closing does to a table does not depend on what the session answers. -/
theorem World.table_disconnect {w : World} {connection : Connection}
    (h : connection.table < w.tables.length) :
    (w.disconnect connection).state.table connection.table =
      ((w.table connection.table).release (w.session connection.session).dsn).2 :=
  (World.table_setTable h _ _).trans (if_pos rfl)

namespace Clients

variable {c : Clients} {table : TableId} {dsn : String} {id : SessionId}

/-- The connections on a session that was made are those under its connection string. -/
theorem openedUnder_eq (hGrounded : c.Grounded) (hDistinct : c.Distinct table)
    (hMade : c.Made table dsn id) : c.openedUnder table dsn = c.opened id := by
  refine List.countP_congr fun handle hMem => ?_
  obtain ⟨d, hThere⟩ := hGrounded.connection (List.mem_map_of_mem (f := Handle.connection) hMem)
  simp only [Bool.and_eq_true, beq_iff_eq, and_assoc]
  refine and_congr_right fun _ => ?_
  constructor
  · rintro ⟨hTable, hDsn⟩
    rw [hGrounded.session_dsn hThere] at hDsn
    rw [hTable, hDsn] at hThere
    exact hDistinct.eq_of_made hThere hMade
  · intro hSession
    rw [hSession] at hThere ⊢
    exact ⟨hGrounded.table_eq hThere hMade, hGrounded.session_dsn hMade⟩

/-- Under a string for which no session was made there is no connection. -/
theorem openedUnder_eq_zero (hGrounded : c.Grounded) (hNone : ∀ id, ¬ c.Made table dsn id) :
    c.openedUnder table dsn = 0 := by
  refine List.countP_eq_zero.mpr fun handle hMem => ?_
  obtain ⟨d, hThere⟩ := hGrounded.connection (List.mem_map_of_mem (f := Handle.connection) hMem)
  simp only [Bool.and_eq_true, beq_iff_eq, and_assoc, not_and]
  rintro - hTable hDsn
  rw [hGrounded.session_dsn hThere] at hDsn
  rw [hTable, hDsn] at hThere
  exact hNone _ hThere

theorem openCount_eq_openedUnder (hGrounded : c.Grounded) (hDistinct : c.Distinct table)
    (hCounted : c.Counted table dsn) :
    (c.world.table table).openCount dsn = c.openedUnder table dsn := by
  by_cases hMade : ∃ id, c.Made table dsn id
  · obtain ⟨id, hMade⟩ := hMade
    rw [hCounted.openCount_eq hGrounded hDistinct hMade, openedUnder_eq hGrounded hDistinct hMade]
  · have hNone : (c.world.table table).find? dsn = none := by
      rw [Option.eq_none_iff_forall_ne_some]
      intro e he
      exact hMade ⟨_, hGrounded.entry he⟩
    rw [openedUnder_eq_zero hGrounded fun id h => hMade ⟨id, h⟩, ConnectionTable.openCount, hNone]
    rfl

/-- Registering a session replaces no entry: the string that was drawn for it has none. -/
theorem find?_register_of_step {c' : Clients} {i : Nat} {e : ConnectionTable.Entry}
    (hGrounded : c.Grounded) (hDistinct : c.Distinct table)
    (hStep : c.step (.register i) = some c')
    (hFind : (c.world.table table).find? dsn = some e) :
    (c'.world.table table).find? dsn = some e := by
  simp only [step] at hStep
  split at hStep
  · rename_i t d config attached hAt
    cases hStep
    have hPlace : (table, dsn) ≠ (t, d) := by
      intro hSame
      cases hSame
      exact hDistinct.not_made (List.mem_of_getElem? hAt) rfl (hGrounded.entry hFind)
    rw [(registers_of_step hGrounded hAt).find?_of_ne hPlace, hFind]
  · cases hStep

/-- In every state that clients can bring about, a table counts the connections that were opened
under each connection string and not closed; one that was dropped counts. The string of an open
connection is registered for its own session, and closing it counts it off, whatever the session
answers; the last one takes the entry with it. An entry without connections is for a session that
never had one. Registering a new session replaces nothing, and opening succeeds exactly on what is
registered. -/
theorem connection_table_exact (h : c.Reachable) (table : TableId)
    (hFew : c.created table < UInt64.size) :
    (∀ dsn, (c.world.table table).openCount dsn = c.openedUnder table dsn) ∧
      (∀ handle ∈ c.handles, handle.isOpen = true → handle.connection.table = table →
        ∃ dsn n, dsn = (c.world.session handle.connection.session).dsn ∧
          (c.world.table table).find? dsn = some ⟨handle.connection.session, n + 1⟩ ∧
          ((c.world.disconnect handle.connection).state.table table).find? dsn =
            (if n = 0 then none else some ⟨handle.connection.session, n⟩) ∧
          (∀ dsn', dsn' ≠ dsn →
            ((c.world.disconnect handle.connection).state.table table).find? dsn' =
              (c.world.table table).find? dsn') ∧
          (c.world.disconnect handle.connection).answer =
            (c.world.session handle.connection.session).close.answer) ∧
      (∀ dsn e, (c.world.table table).find? dsn = some e → e.opened = 0 →
        ∀ handle ∈ c.handles, handle.connection.session ≠ e.session) ∧
      (∀ i c', c.step (.register i) = some c' → ∀ dsn e,
        (c.world.table table).find? dsn = some e → (c'.world.table table).find? dsn = some e) ∧
      ∀ dsn, (∃ connection, (c.world.connect table dsn).answer = .ok connection) ↔
        (c.world.table table).isRegistered dsn = true := by
  have hGrounded := h.grounded
  have hDistinct := (h.numbered hFew).distinct
  have hCounted := h.counted hFew
  refine ⟨fun dsn => openCount_eq_openedUnder hGrounded hDistinct (hCounted dsn), ?_, ?_, ?_, ?_⟩
  · rintro handle hMem hOpen rfl
    obtain ⟨dsn, hMade⟩ := hGrounded.connection (List.mem_map_of_mem (f := Handle.connection) hMem)
    have hDsn := hGrounded.session_dsn hMade
    have hTable := World.table_disconnect (hGrounded.known_of_made hMade)
    rw [hDsn] at hTable
    have hPos : 0 < c.opened handle.connection.session :=
      List.countP_pos_iff.mpr ⟨handle, hMem, by simp [hOpen]⟩
    obtain ⟨n, hn⟩ := Nat.exists_eq_add_of_lt hPos
    have hFind := (hCounted dsn).find?_eq hGrounded hDistinct hMade hPos
    rw [hn, Nat.zero_add] at hFind
    refine ⟨dsn, n, hDsn.symm, hFind, ?_, ?_, rfl⟩
    · rw [hTable, ConnectionTable.find?_release hFind]
    · intro dsn' hNe
      rw [hTable, ConnectionTable.find?_release_of_ne hNe]
  · intro dsn e hFind hZero handle hMem
    exact ((hCounted dsn).registered hFind).2 hZero _ (List.mem_map_of_mem hMem)
  · intro i c' hStep dsn e hFind
    exact find?_register_of_step hGrounded hDistinct hStep hFind
  · intro dsn
    simp only [World.connect, ConnectionTable.isRegistered, ConnectionTable.openOne]
    cases (c.world.table table).find? dsn <;> simp

/-- A client is creating a session and opening a connection on it. Before it gets there, another one
opens the session by its string and closes it, which the session refuses; so the first client's
connection brings the entry back. -/
theorem connection_table_exact_reattach :
    ∃ c : Clients, c.Reachable ∧ c.created 0 < UInt64.size ∧
      c.handles.map Handle.grip = [.closed, .held] ∧
      (c.world.table 0).openCount "sqlmock_db_0" = c.openedUnder 0 "sqlmock_db_0" ∧
      (c.world.table 0).openCount "sqlmock_db_0" = 1 := by
  obtain ⟨c, hMoves, hCreated, hGrips, hCount⟩ : ∃ c : Clients,
      [.addTable, .name 0 {}, .register 0, .connect 0 "sqlmock_db_0", .disconnect 0,
        .attach 0].foldlM step {} = some c ∧
      c.created 0 = 1 ∧ c.handles.map Handle.grip = [.closed, .held] ∧
      (c.world.table 0).openCount "sqlmock_db_0" = 1 := ⟨_, rfl, rfl, rfl, rfl⟩
  have hReachable := Reachable.start.foldlM hMoves
  have hFew : c.created 0 < UInt64.size := by
    rw [hCreated]
    decide
  exact ⟨c, hReachable, hFew, hGrips, (connection_table_exact hReachable 0 hFew).1 _, hCount⟩

end Clients

end ScriptedDb
