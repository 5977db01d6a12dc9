import ScriptedDb.Proofs.Clients.Table

/-! A move does one of five things to what tables are about. `Clients.step_cases` says which, and
the invariants of tables are proved from it. -/

namespace ScriptedDb

theorem map_set_of_eq {α β : Type} {f : α → β} {l : List α} {i : Nat} {a b : α}
    (hAt : l[i]? = some a) (h : f b = f a) : (l.set i b).map f = l.map f := by
  obtain ⟨hIndex, rfl⟩ := List.getElem?_eq_some_iff.mp hAt
  rw [List.map_set, h, ← List.getElem_map f (h := by simpa using hIndex), List.set_getElem_self]

theorem countP_set_of_eq {α : Type} {p : α → Bool} {l : List α} {i : Nat} {a b : α}
    (hAt : l[i]? = some a) (h : p b = false) :
    (l.set i b).countP p + (if p a then 1 else 0) = l.countP p := by
  obtain ⟨hIndex, rfl⟩ := List.getElem?_eq_some_iff.mp hAt
  rw [List.countP_set hIndex, h]
  cases hp : p l[i] with
  | false => simp
  | true =>
    have hPos : 0 < l.countP p := List.countP_pos_iff.mpr ⟨l[i], List.getElem_mem hIndex, hp⟩
    simp only [↓reduceIte, Bool.false_eq_true]
    omega

namespace Session

theorem dsn_operate (operation : Operation) (s : Session) :
    (s.operate operation).state.dsn = s.dsn := by
  cases operation with
  | expect kind pattern =>
    simp only [operate]
    cases hExpect : s.expect kind pattern with
    | error => rfl
    | ok s' =>
      cases kind <;> simp only [expect, Except.map] at hExpect
      case prepare | exec | query => split at hExpect <;> cases hExpect; rfl
      all_goals cases hExpect; rfl
  | expectStatementExec index =>
    simp only [operate, expectStatementExec, quietly]
    split <;> rfl
  | expectStatementQuery index =>
    simp only [operate, expectStatementQuery, quietly]
    split <;> rfl
  | refine | setOrdered | setRequireExpectations | closeStatement => rfl
  | request request =>
    simp only [operate]
    rw [serve_state]

end Session

namespace World

variable {w : World} {table : TableId} {id : SessionId}

/-- An operation on a session that keeps its connection string keeps all of them. -/
theorem map_dsn_on {α : Type} (w : World) (id : SessionId) {op : Session → Reply Session α}
    (h : ∀ s, (op s).state.dsn = s.dsn) :
    (w.on id op).state.sessions.map Session.dsn = w.sessions.map Session.dsn := by
  simp only [on, setSession]
  cases hAt : w.sessions[id]? with
  | none => rw [List.set_eq_of_length_le (List.getElem?_eq_none_iff.mp hAt)]
  | some s =>
    refine map_set_of_eq hAt ?_
    rw [h, World.session, hAt, Option.getD_some]

end World

/-- What a creation has brought about so far: its string, and its session if that is registered. -/
def Creation.product (creation : Creation) : TableId × String × Option SessionId :=
  (creation.table, creation.dsn, creation.session?)

namespace Clients

/-- No two creations in a table have drawn the same connection string. -/
def Distinct (c : Clients) (table : TableId) : Prop :=
  ∀ (dsn : String) (i j : Nat),
    c.names[i]? = some (table, dsn) → c.names[j]? = some (table, dsn) → i = j

/-- Tables and sessions stay, and sessions keep their connection strings. -/
structure Grows (c c' : Clients) : Prop where
  tables : c.world.tables.length ≤ c'.world.tables.length
  dsns : c.dsns <+: c'.dsns

/-- Nothing changes that tables are about. -/
structure Quiet (c c' : Clients) : Prop where
  names : c'.names = c.names
  made : c'.Made = c.Made
  tables : c'.world.table = c.world.table
  opened : c'.opened = c.opened
  connections : c'.connections = c.connections

structure Names (c c' : Clients) (table : TableId) : Prop where
  known : table < c.world.tables.length
  names : c'.names =
    c.names ++ [(table, ConnectionTable.numbered (c.world.table table).nextId.toNat)]
  made : c'.Made = c.Made
  tables (t : TableId) : c'.world.table t =
    if t = table then { c.world.table table with nextId := (c.world.table table).nextId + 1 }
    else c.world.table t
  handles : c'.handles = c.handles

/-- A new session is registered under a connection string. -/
structure Registers (c c' : Clients) (table : TableId) (dsn : String) (id : SessionId) : Prop where
  fresh : id = c.world.sessions.length
  called : c'.dsns[id]? = some dsn
  names : c'.names = c.names
  made (t : TableId) (d : String) (id' : SessionId) :
    c'.Made t d id' ↔ c.Made t d id' ∨ t = table ∧ d = dsn ∧ id' = id
  tables (t : TableId) : c'.world.table t =
    if t = table then (c.world.table table).register dsn id else c.world.table t
  handles : c'.handles = c.handles

structure Opens (c c' : Clients) (table : TableId) (dsn : String) (id : SessionId) : Prop where
  names : c'.names = c.names
  known : c.Made table dsn id
  made : c'.Made = c.Made
  tables (t : TableId) : c'.world.table t =
    if t = table then (c.world.table table).attach dsn id else c.world.table t
  opened (id' : SessionId) : c'.opened id' = c.opened id' + if id = id' then 1 else 0
  connections : c'.connections = c.connections ++ [⟨id, table⟩]

structure Closes (c c' : Clients) (table : TableId) (dsn : String) (id : SessionId) : Prop where
  names : c'.names = c.names
  known : c.Made table dsn id
  made : c'.Made = c.Made
  tables (t : TableId) : c'.world.table t =
    if t = table then ((c.world.table table).release dsn).2 else c.world.table t
  opened (id' : SessionId) : c'.opened id' + (if id = id' then 1 else 0) = c.opened id'
  connections : c'.connections = c.connections

/-- What is true of creations, connections and tables whatever strings are drawn: sessions are made
where they are registered, and connections are opened on what was made. -/
structure Grounded (c : Clients) : Prop where
  /-- Strings are drawn from tables that are there. -/
  known {table : TableId} {dsn : String} : (table, dsn) ∈ c.names → table < c.world.tables.length
  /-- A session has the string under which it was made. -/
  called {table : TableId} {dsn : String} {id : SessionId} :
    c.Made table dsn id → c.dsns[id]? = some dsn
  /-- A session is made in one table only. -/
  table_eq {table table' : TableId} {dsn dsn' : String} {id : SessionId} :
    c.Made table dsn id → c.Made table' dsn' id → table = table'
  /-- An entry is for a session that was made under its string. -/
  entry {table : TableId} {dsn : String} {e : ConnectionTable.Entry} :
    (c.world.table table).find? dsn = some e → c.Made table dsn e.session
  /-- A connection is on a session that was made in its table. -/
  connection {connection : Connection} : connection ∈ c.connections →
    ∃ dsn, c.Made connection.table dsn connection.session

variable {c c' : Clients} {move : Move} {table : TableId} {dsn : String} {id : SessionId}

theorem Made.mem_names (h : c.Made table dsn id) : (table, dsn) ∈ c.names := by
  obtain ⟨creation, hMem, rfl, rfl, -⟩ := h
  exact List.mem_map_of_mem hMem

theorem Distinct.creation_eq {creation creation' : Creation} (h : c.Distinct creation.table)
    (hMem : creation ∈ c.creations) (hMem' : creation' ∈ c.creations)
    (hTable : creation'.table = creation.table) (hDsn : creation'.dsn = creation.dsn) :
    creation' = creation := by
  obtain ⟨i, hi⟩ := List.getElem?_of_mem hMem
  obtain ⟨j, hj⟩ := List.getElem?_of_mem hMem'
  obtain rfl : i = j := by
    refine h creation.dsn i j ?_ ?_
    · simp [names, hi]
    · simp [names, hj, hTable, hDsn]
  exact Option.some.inj (hj.symm.trans hi)

/-- Where strings are distinct, one session at most is made under each. -/
theorem Distinct.eq_of_made {id' : SessionId} (h : c.Distinct table) (hMade : c.Made table dsn id)
    (hMade' : c.Made table dsn id') : id = id' := by
  obtain ⟨creation, hMem, rfl, rfl, hSession⟩ := hMade
  obtain ⟨creation', hMem', hTable, hDsn, hSession'⟩ := hMade'
  rw [h.creation_eq hMem hMem' hTable hDsn, hSession] at hSession'
  exact Option.some.inj hSession'

/-- Under a string that waits for its session none has been made. -/
theorem Distinct.not_made {creation : Creation} (h : c.Distinct creation.table)
    (hMem : creation ∈ c.creations) (hWaiting : creation.session? = none) :
    ¬ c.Made creation.table creation.dsn id := by
  rintro ⟨creation', hMem', hTable, hDsn, hSession⟩
  rw [h.creation_eq hMem hMem' hTable hDsn, hWaiting] at hSession
  cases hSession

theorem made_eq (h : c'.creations.map Creation.product = c.creations.map Creation.product) :
    c'.Made = c.Made := by
  have hMade (c : Clients) (t : TableId) (d : String) (id : SessionId) :
      c.Made t d id ↔ (t, d, some id) ∈ c.creations.map Creation.product := by
    simp [Made, Creation.product]
  funext t d id
  rw [eq_iff_iff, hMade, hMade, h]

/-- A session is found with the connection string under which it was made. -/
theorem Grounded.session_dsn (h : c.Grounded) (hMade : c.Made table dsn id) :
    (c.world.session id).dsn = dsn := by
  have hCalled := h.called hMade
  rw [dsns, List.getElem?_map, Option.map_eq_some_iff] at hCalled
  obtain ⟨s, hSession, rfl⟩ := hCalled
  rw [World.session, hSession, Option.getD_some]

theorem Grounded.known_of_made (h : c.Grounded) (hMade : c.Made table dsn id) :
    table < c.world.tables.length :=
  h.known hMade.mem_names

section Moves

variable {i : Nat} {config : Config}

theorem registers_of_step (hGrounded : c.Grounded) {attached : Bool}
    (hAt : c.creations[i]? = some ⟨table, dsn, config, none, attached⟩) :
    c.Registers
      { c with
        world := (c.world.registerSession table dsn config).2
        creations := c.creations.set i
          ⟨table, dsn, config, some c.world.sessions.length, attached⟩ }
      table dsn c.world.sessions.length where
  fresh := rfl
  called := by simp [dsns, World.registerSession, World.addSession, World.setTable]
  names := map_set_of_eq hAt rfl
  made t d id' := by
    constructor
    · rintro ⟨creation, hMem, rfl, rfl, hSession⟩
      rcases List.mem_or_eq_of_mem_set hMem with hOld | rfl
      · exact .inl ⟨creation, hOld, rfl, rfl, hSession⟩
      · exact .inr ⟨rfl, rfl, (Option.some.inj hSession).symm⟩
    · obtain ⟨hIndex, -⟩ := List.getElem?_eq_some_iff.mp hAt
      rintro (⟨creation, hMem, rfl, rfl, hSession⟩ | ⟨rfl, rfl, rfl⟩)
      · obtain ⟨j, hj⟩ := List.getElem?_of_mem hMem
        -- The creation that registers now had made nothing before.
        have hNe : i ≠ j := by
          rintro rfl
          rw [hAt, Option.some.injEq] at hj
          subst hj
          cases hSession
        refine ⟨creation, List.mem_of_getElem? (i := j) ?_, rfl, rfl, hSession⟩
        rw [List.getElem?_set_ne hNe, hj]
      · exact ⟨_, List.mem_set hIndex _, rfl, rfl, rfl⟩
  tables t :=
    World.table_setTable (hGrounded.known (List.mem_map_of_mem (List.mem_of_getElem? hAt))) _ t
  handles := rfl

theorem opened_concat (c : Clients) (id id' : SessionId) (table : TableId) (world : World)
    (creations : List Creation) :
    opened ⟨world, creations, c.handles ++ [{ connection := ⟨id, table⟩ }]⟩ id' =
      c.opened id' + if id = id' then 1 else 0 := by
  simp [opened, List.countP_append, List.countP_singleton, Handle.isOpen]

theorem opens_of_made (hGrounded : c.Grounded) (hMade : c.Made table dsn id)
    {creations : List Creation}
    (hCreations : creations.map Creation.product = c.creations.map Creation.product) :
    c.Opens
      { world := c.world.setTable table ((c.world.table table).attach dsn id)
        creations := creations
        handles := c.handles ++ [{ connection := ⟨id, table⟩ }] }
      table dsn id where
  names := by
    have hNames := congrArg (List.map fun product => (product.1, product.2.1)) hCreations
    simpa [names, Creation.product, List.map_map, Function.comp_def] using hNames
  known := hMade
  made := made_eq hCreations
  tables := World.table_setTable (hGrounded.known_of_made hMade) _
  opened id' := c.opened_concat id id' table _ creations
  connections := by simp [connections]

theorem closes_of_step (hGrounded : c.Grounded) {connection : Connection}
    (hAt : c.handles[i]? = some ⟨connection, .held⟩) :
    ∃ dsn, c.Closes
      { c with
        world := (c.world.disconnect connection).state
        handles := c.handles.set i ⟨connection, .closed⟩ }
      connection.table dsn connection.session := by
  obtain ⟨dsn, hMade⟩ := hGrounded.connection
    (List.mem_map_of_mem (f := Handle.connection) (List.mem_of_getElem? hAt))
  refine ⟨dsn, rfl, hMade, rfl, ?_, ?_, map_set_of_eq hAt rfl⟩
  · rw [← hGrounded.session_dsn hMade]
    exact World.table_setTable (hGrounded.known_of_made hMade) _
  · intro id'
    have hCount := countP_set_of_eq (p := fun h => h.isOpen && h.connection.session == id') hAt
      (b := ⟨connection, .closed⟩) rfl
    simpa [opened, Handle.isOpen] using hCount

end Moves

theorem Grows.of_dsns_eq (hTables : c.world.tables.length ≤ c'.world.tables.length)
    (hDsns : c'.dsns = c.dsns) : c.Grows c' :=
  ⟨hTables, hDsns ▸ List.prefix_rfl⟩

theorem step_cases (hGrounded : c.Grounded) (h : c.step move = some c') :
    c.Grows c' ∧ (c.Quiet c' ∨ (∃ table, c.Names c' table) ∨
      (∃ table dsn id, c.Registers c' table dsn id) ∨ (∃ table dsn id, c.Opens c' table dsn id) ∨
      ∃ table dsn id, c.Closes c' table dsn id) := by
  cases move with
  | addTable =>
    simp only [step, Option.some.injEq] at h
    subst h
    exact ⟨.of_dsns_eq (by simp [World.addTable]) rfl,
      .inl ⟨rfl, rfl, funext c.world.table_addTable, rfl, rfl⟩⟩
  | addSession d config =>
    simp only [step, Option.some.injEq] at h
    subst h
    refine ⟨⟨Nat.le_refl _, ?_⟩, .inl ⟨rfl, rfl, rfl, rfl, rfl⟩⟩
    simp [Clients.dsns, World.addSession]
  | operate id' operation =>
    simp only [step, Option.some.injEq] at h
    subst h
    exact ⟨.of_dsns_eq (Nat.le_refl _) (World.map_dsn_on _ _ (Session.dsn_operate operation)),
      .inl ⟨rfl, rfl, rfl, rfl, rfl⟩⟩
  | name t config =>
    simp only [step] at h
    split at h
    · rename_i hKnown
      cases h
      refine ⟨.of_dsns_eq (by simp [World.nameSession, World.setTable]) rfl,
        .inr (.inl ⟨t, hKnown, ?_, ?_, World.table_setTable hKnown _, rfl⟩)⟩
      · simp [names, World.nameSession, ConnectionTable.freshDsn_eq]
      · funext t' d id'
        simp [Made]
    · cases h
  | register i =>
    simp only [step] at h
    split at h
    · rename_i t d config attached hAt
      cases h
      refine ⟨⟨by simp [World.registerSession, World.addSession, World.setTable], ?_⟩,
        .inr (.inr (.inl ⟨t, d, _, registers_of_step hGrounded hAt⟩))⟩
      simp [Clients.dsns, World.registerSession, World.addSession, World.setTable]
    · cases h
  | attach i =>
    simp only [step] at h
    split at h
    · rename_i t d config id' hAt
      cases h
      have hMade : c.Made t d id' := ⟨_, List.mem_of_getElem? hAt, rfl, rfl, rfl⟩
      refine ⟨.of_dsns_eq (by simp [World.attach, World.setTable]) rfl,
        .inr (.inr (.inr (.inl ⟨t, d, id', ?_⟩)))⟩
      simp only [World.attach, hGrounded.session_dsn hMade]
      exact opens_of_made hGrounded hMade (map_set_of_eq hAt rfl)
    · cases h
  | connect t d =>
    simp only [step, World.connect] at h
    cases hFind : (c.world.table t).find? d with
    | none =>
      simp only [ConnectionTable.openOne, hFind, Option.map_none, Option.some.injEq] at h
      subst h
      exact ⟨.of_dsns_eq (Nat.le_refl _) rfl, .inl ⟨rfl, rfl, rfl, rfl, rfl⟩⟩
    | some e =>
      simp only [ConnectionTable.openOne_eq hFind, Option.some.injEq] at h
      subst h
      exact ⟨.of_dsns_eq (by simp [World.setTable]) rfl, .inr (.inr (.inr (.inl
        ⟨t, d, e.session, opens_of_made hGrounded (hGrounded.entry hFind) rfl⟩)))⟩
  | disconnect i =>
    simp only [step] at h
    split at h
    · rename_i connection hAt
      cases h
      obtain ⟨d, hCloses⟩ := closes_of_step hGrounded hAt
      refine ⟨.of_dsns_eq ?_ (World.map_dsn_on (c.world.setTable _ _) _ fun _ => rfl),
        .inr (.inr (.inr (.inr ⟨_, d, _, hCloses⟩)))⟩
      simp [World.disconnect, World.on, World.setSession, World.setTable]
    · cases h
  | drop i =>
    simp only [step] at h
    split at h
    · rename_i connection hAt
      cases h
      refine ⟨.of_dsns_eq (Nat.le_refl _) rfl,
        .inl ⟨rfl, rfl, rfl, ?_, map_set_of_eq hAt rfl⟩⟩
      funext id'
      have hCount := congrArg (List.countP id) (map_set_of_eq (b := ⟨connection, .dropped⟩)
        (f := fun h => h.isOpen && h.connection.session == id') hAt rfl)
      simpa only [opened, List.countP_map, Function.comp_def, id] using hCount
    · cases h

end Clients

end ScriptedDb
