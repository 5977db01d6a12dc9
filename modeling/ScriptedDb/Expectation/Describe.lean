import ScriptedDb.Expectation.Basic

namespace ScriptedDb.Expectation

def describeArgs : Option (List Argument) → String
  | none => ""
  | some [] => " without arguments"
  | some args => " with args " ++ Argument.renderList args

def describeResult : Option ExecResult → String
  | none => ""
  | some (.counts id rows) =>
    s!", returning result(last_insert_id={id.toInt}, rows_affected={rows.toInt})"
  | some (.failed _) => ", returning an error result"

@[simp] theorem describeResult_none : describeResult none = "" := rfl

@[simp] theorem describeResult_failed (fault : Fault) :
    describeResult (some (.failed fault)) = ", returning an error result" := rfl

def describeRows : Option Rows → String
  | none => ""
  | some rows =>
    s!", returning {rows.rows.length} row(s) of " ++ Text.quotedList rows.columns

/-- A declared fault after the words that say when it is raised. -/
def describeFault (words : String) : Option Fault → String
  | none => ""
  | some fault => s!", {words} with error '{fault.message}'"

def describePattern (pattern : QueryPattern) : String :=
  " matching '" ++ pattern.text ++ "'"

def describePayload : Payload → String
  | .close => "database Close"
  | .begin => "database transaction Begin"
  | .commit => "transaction Commit"
  | .rollback => "transaction Rollback"
  | .prepare pattern closeError mustBeClosed _ =>
    "Prepare statement" ++ describePattern pattern
      ++ (if mustBeClosed then ", to be closed" else "") ++ describeFault "closing" closeError
  | .exec pattern args result =>
    "Exec" ++ describePattern pattern ++ describeArgs args ++ describeResult result
  | .query pattern args rows =>
    "Query" ++ describePattern pattern ++ describeArgs args ++ describeRows rows

def describe (e : Expectation) : String :=
  s!"Expected{e.kind.name} => expecting " ++ describePayload e.payload
    ++ describeFault "failing" e.error ++ (if e.fulfilled then " (fulfilled)" else "")

end ScriptedDb.Expectation
