import ScriptedDb.Value.Basic
import ScriptedDb.Text.Blank

namespace ScriptedDb

inductive Kind where
  | close
  | begin
  | commit
  | rollback
  | prepare
  | exec
  | query
  deriving DecidableEq, Repr

namespace Kind

def name : Kind → String
  | .close => "Close"
  | .begin => "Begin"
  | .commit => "Commit"
  | .rollback => "Rollback"
  | .prepare => "Prepare"
  | .exec => "Exec"
  | .query => "Query"

def label : Kind → String
  | .close => "close"
  | .begin => "begin"
  | .commit => "commit"
  | .rollback => "rollback"
  | .prepare => "prepare"
  | .exec => "exec"
  | .query => "query"

end Kind

/-- A query as patterns see it: its words with single spaces between them. -/
def normalizeQuery (query : String) : String :=
  String.ofList (Text.oneLine query.toList)

structure Call where
  kind : Kind
  query : String := ""
  args : List Value := []

namespace Call

/-- A call without query and arguments. -/
def bare (kind : Kind) : Call :=
  { kind }

def label (c : Call) : String :=
  c.kind.label

def describe (c : Call) : String :=
  match c.kind with
  | .close => "database Close"
  | .begin => "database transaction Begin"
  | .commit => "commit transaction"
  | .rollback => "rollback transaction"
  | .prepare => s!"Prepare statement with query '{c.query}'"
  | .exec => s!"exec query '{c.query}' with args {Value.renderList c.args}"
  | .query => s!"query '{c.query}' with args {Value.renderList c.args}"

end Call

end ScriptedDb
