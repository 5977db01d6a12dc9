import ScriptedDb.World.Operation

/-! Many clients at once. What a client does under one lock happens at once, and between two locks
others may act: creating a session takes two such sections, and opening a connection on it a third.
-/

namespace ScriptedDb

namespace World

def nameSession (w : World) (table : TableId) : String × World :=
  let (dsn, t) := (w.table table).freshDsn
  (dsn, w.setTable table t)

def registerSession (w : World) (table : TableId) (dsn : String) (config : Config) :
    SessionId × World :=
  let (id, w) := w.addSession dsn config
  (id, w.setTable table ((w.table table).register dsn id))

end World

/-- The creation of a session in a table: its connection string, the session once it is registered,
and whether the creator has opened a connection on it. -/
structure Creation where
  table : TableId
  dsn : String
  config : Config
  session? : Option SessionId := none
  attached : Bool := false

inductive Grip where
  | held
  /-- Let go without being closed. -/
  | dropped
  | closed
  deriving DecidableEq

structure Handle where
  connection : Connection
  grip : Grip := .held

/-- A connection is open until it is closed, also if nobody holds it any more. -/
def Handle.isOpen (h : Handle) : Bool :=
  h.grip != .closed

/-- The world, and all that clients have made and got in it. -/
structure Clients where
  world : World := {}
  creations : List Creation := []
  handles : List Handle := []

/-- What one client does at once. Creations and handles are given by their indices. -/
inductive Move where
  | addTable
  /-- Make a session that no table knows. -/
  | addSession (dsn : String) (config : Config)
  | operate (session : SessionId) (operation : Session.Operation)
  /-- Begin a creation by drawing its connection string. -/
  | name (table : TableId) (config : Config)
  /-- Register the session of a creation. -/
  | register (creation : Nat)
  /-- Open a connection on the session that was just created. -/
  | attach (creation : Nat)
  | connect (table : TableId) (dsn : String)
  | disconnect (handle : Nat)
  | drop (handle : Nat)

namespace Clients

def step (c : Clients) : Move → Option Clients
  | .addTable => some { c with world := c.world.addTable.2 }
  | .addSession dsn config => some { c with world := (c.world.addSession dsn config).2 }
  | .operate id operation =>
    some { c with world := (c.world.on id (Session.operate operation)).state }
  | .name table config =>
    if table < c.world.tables.length then
      let (dsn, world) := c.world.nameSession table
      some { c with world, creations := c.creations ++ [{ table, dsn, config }] }
    else none
  | .register i =>
    match c.creations[i]? with
    | some ⟨table, dsn, config, none, attached⟩ =>
      let (id, world) := c.world.registerSession table dsn config
      some { c with
        world
        creations := c.creations.set i ⟨table, dsn, config, some id, attached⟩ }
    | _ => none
  | .attach i =>
    match c.creations[i]? with
    | some ⟨table, dsn, config, some id, false⟩ =>
      let (connection, world) := c.world.attach table id
      some {
        world
        creations := c.creations.set i ⟨table, dsn, config, some id, true⟩
        handles := c.handles ++ [{ connection }] }
    | _ => none
  | .connect table dsn =>
    let r := c.world.connect table dsn
    match r.answer with
    | .ok connection => some { c with world := r.state, handles := c.handles ++ [{ connection }] }
    | .error _ => some { c with world := r.state }
  | .disconnect i =>
    match c.handles[i]? with
    | some ⟨connection, .held⟩ =>
      some { c with
        world := (c.world.disconnect connection).state
        handles := c.handles.set i ⟨connection, .closed⟩ }
    | _ => none
  | .drop i =>
    match c.handles[i]? with
    | some ⟨connection, .held⟩ =>
      some { c with handles := c.handles.set i ⟨connection, .dropped⟩ }
    | _ => none

def names (c : Clients) : List (TableId × String) :=
  c.creations.map fun creation => (creation.table, creation.dsn)

def created (c : Clients) (table : TableId) : Nat :=
  c.names.countP (·.1 == table)

def Made (c : Clients) (table : TableId) (dsn : String) (id : SessionId) : Prop :=
  ∃ creation ∈ c.creations,
    creation.table = table ∧ creation.dsn = dsn ∧ creation.session? = some id

def dsns (c : Clients) : List String :=
  c.world.sessions.map Session.dsn

def connections (c : Clients) : List Connection :=
  c.handles.map Handle.connection

def opened (c : Clients) (id : SessionId) : Nat :=
  c.handles.countP fun h => h.isOpen && h.connection.session == id

/-- How many connections are open that were opened in a table under a connection string. -/
def openedUnder (c : Clients) (table : TableId) (dsn : String) : Nat :=
  c.handles.countP fun h => h.isOpen && h.connection.table == table &&
    (c.world.session h.connection.session).dsn == dsn

inductive Reachable : Clients → Prop where
  | start : Reachable {}
  | step {c c' : Clients} {move : Move} (prior : Reachable c)
      (last : c.step move = some c') : Reachable c'

end Clients

end ScriptedDb
