import ScriptedDb.ConnectionTable
import ScriptedDb.Session.Calls

/-! Handles are plain values that name a session, so a connection, a transaction and a statement of
one session share its script. A handle that is dropped without being closed leaves no trace. -/

namespace ScriptedDb

abbrev TableId := Nat

/-- An open connection: its session and the table that counts it. -/
structure Connection where
  session : SessionId
  table : TableId
  deriving DecidableEq, Repr

/-- An open transaction, which is its session. -/
structure Transaction where
  session : SessionId
  deriving DecidableEq, Repr

structure Statement where
  session : SessionId
  prepared : Prepared

structure World where
  sessions : List Session := []
  tables : List ConnectionTable := []

namespace World

/-- The session with an index. An index that was never handed out names an empty session. -/
def session (w : World) (id : SessionId) : Session :=
  w.sessions[id]?.getD default

def table (w : World) (id : TableId) : ConnectionTable :=
  w.tables[id]?.getD {}

def setSession (w : World) (id : SessionId) (s : Session) : World :=
  { w with sessions := w.sessions.set id s }

def setTable (w : World) (id : TableId) (t : ConnectionTable) : World :=
  { w with tables := w.tables.set id t }

def addTable (w : World) : TableId × World :=
  (w.tables.length, { w with tables := w.tables ++ [{}] })

def addSession (w : World) (dsn : String) (config : Config) : SessionId × World :=
  (w.sessions.length, { w with sessions := w.sessions ++ [{ dsn, config }] })

def on {α : Type} (w : World) (id : SessionId) (op : Session → Reply Session α) : Reply World α :=
  let r := op (w.session id)
  { answer := r.answer, state := w.setSession id r.state, events := r.events }

def newSession (w : World) (table : TableId) (config : Config) : SessionId × World :=
  let (dsn, t) := (w.table table).freshDsn
  let (id, w) := w.addSession dsn config
  (id, w.setTable table (t.register dsn id))

def attach (w : World) (table : TableId) (id : SessionId) : Connection × World :=
  (⟨id, table⟩, w.setTable table ((w.table table).attach (w.session id).dsn id))

def openNew (w : World) (table : TableId) (config : Config) : Connection × World :=
  let (id, w) := w.newSession table config
  w.attach table id

def connect (w : World) (table : TableId) (dsn : String) : Reply World Connection :=
  match (w.table table).openOne dsn with
  | none => { answer := .error (.unknownDsn dsn), state := w }
  | some (entry, t) =>
    { answer := .ok ⟨entry.session, table⟩
      state := w.setTable table t
      events := [.opened dsn entry.opened] }

/-- Close a connection: count it off, then close its session. The count goes down also when the
session refuses to close, and the log is told when the last connection leaves expectations
behind. -/
def disconnect (w : World) (c : Connection) : Reply World Unit :=
  let dsn := (w.session c.session).dsn
  let (gone, t) := (w.table c.table).release dsn
  let r := (w.setTable c.table t).on c.session Session.close
  let pending := (r.state.session c.session).pendingCount
  { r with events := r.events ++ if gone && 0 < pending then [.closedPending dsn pending] else [] }

def begin (w : World) (id : SessionId) : Reply World Transaction :=
  let r := w.on id Session.begin
  { answer := r.answer.map fun _ => ⟨id⟩, state := r.state, events := r.events }

def commit (w : World) (t : Transaction) : Reply World Unit :=
  w.on t.session Session.commit

def rollback (w : World) (t : Transaction) : Reply World Unit :=
  w.on t.session Session.rollback

def prepare (w : World) (id : SessionId) (query : String) : Reply World (Option Statement) :=
  let r := w.on id (·.prepare query)
  { answer := r.answer.map (·.map fun p => ⟨id, p⟩), state := r.state, events := r.events }

def execStatement (w : World) (st : Statement) (args : List Value) :
    Reply World (Option ExecResult) :=
  w.on st.session (·.exec st.prepared.query args)

def queryStatement (w : World) (st : Statement) (args : List Value) :
    Reply World (Option Rows) :=
  w.on st.session (·.query st.prepared.query args)

def closeStatement (w : World) (st : Statement) : Reply World Unit :=
  w.on st.session (·.closeStatement st.prepared)

end World

end ScriptedDb
