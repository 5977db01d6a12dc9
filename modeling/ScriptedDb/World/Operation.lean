import ScriptedDb.Session.Operation
import ScriptedDb.World

/-! Every operation on the world concerns at most one session that exists already, and `target`
tells what it does to that session. -/

namespace ScriptedDb.World

inductive Operation where
  | addTable
  | addSession (dsn : String) (config : Config)
  | newSession (table : TableId) (config : Config)
  | openNew (table : TableId) (config : Config)
  | connect (table : TableId) (dsn : String)
  /-- An operation made directly on a session. -/
  | direct (session : SessionId) (operation : Session.Operation)
  | beginOn (connection : Connection)
  | prepareOn (connection : Connection) (text : String)
  | execOn (connection : Connection) (text : String) (args : List Value)
  | queryOn (connection : Connection) (text : String) (args : List Value)
  | disconnect (connection : Connection)
  | commit (transaction : Transaction)
  | rollback (transaction : Transaction)
  | execStatement (statement : Statement) (args : List Value)
  | queryStatement (statement : Statement) (args : List Value)
  | closeStatement (statement : Statement)

/-- What an operation does to a session that exists already, and to which one. -/
def Operation.target : Operation → Option (SessionId × Session.Operation)
  | .addTable | .addSession .. | .newSession .. | .openNew .. | .connect .. => none
  | .direct id operation => some (id, operation)
  | .beginOn c => some (c.session, .request .begin)
  | .prepareOn c text => some (c.session, .request (.prepare text))
  | .execOn c text args => some (c.session, .request (.exec text args))
  | .queryOn c text args => some (c.session, .request (.query text args))
  | .disconnect c => some (c.session, .request .close)
  | .commit t => some (t.session, .request .commit)
  | .rollback t => some (t.session, .request .rollback)
  | .execStatement st args => some (st.session, .request (.exec st.prepared.query args))
  | .queryStatement st args => some (st.session, .request (.query st.prepared.query args))
  | .closeStatement st => some (st.session, .closeStatement st.prepared)

def quietly (w : World) : Reply World Response :=
  { answer := .ok .done, state := w }

/-- Carry out an operation. Handles that it makes are not part of its answer: all that a
connection, a transaction or a statement tells beyond the answer is its session. -/
def operate (operation : Operation) (w : World) : Reply World Response :=
  match operation with
  | .addTable => w.addTable.2.quietly
  | .addSession dsn config => (w.addSession dsn config).2.quietly
  | .newSession table config => (w.newSession table config).2.quietly
  | .openNew table config => (w.openNew table config).2.quietly
  | .connect table dsn => (w.connect table dsn).map fun _ => .done
  | .direct id operation => w.on id (Session.operate operation)
  | .beginOn c => (w.begin c.session).map fun _ => .done
  | .prepareOn c text =>
    (w.prepare c.session text).map fun st => .prepared (st.map Statement.prepared)
  | .execOn c text args => (w.on c.session (·.exec text args)).map .result
  | .queryOn c text args => (w.on c.session (·.query text args)).map .rows
  | .disconnect c => (w.disconnect c).map fun _ => .done
  | .commit t => (w.commit t).map fun _ => .done
  | .rollback t => (w.rollback t).map fun _ => .done
  | .execStatement st args => (w.execStatement st args).map .result
  | .queryStatement st args => (w.queryStatement st args).map .rows
  | .closeStatement st => (w.closeStatement st).map fun _ => .done

end ScriptedDb.World
