import ScriptedDb.Fault
import ScriptedDb.Value.Agreement

/-! An error keeps its parts; `Error.code` is its stable name and `Error.message` its wording. -/

namespace ScriptedDb

inductive ReadFailure where
  | notFound
  | notADirectory
  | isDirectory
  | nameTooLong
  | nulInName
  | notUtf8
  deriving DecidableEq

def ReadFailure.message : ReadFailure → String
  | .notFound => "No such file or directory (os error 2)"
  | .notADirectory => "Not a directory (os error 20)"
  | .isDirectory => "Is a directory (os error 21)"
  | .nameTooLong => "File name too long (os error 36)"
  | .nulInName => "file name contained an unexpected NUL byte"
  | .notUtf8 => "stream did not contain valid UTF-8"

inductive FixtureFault where
  /-- The row at `index` has `width` values where `columns` are declared. -/
  | raggedRow (index width columns : Nat)
  | invalidJson (failure : Json.Failure)
  | unreadable (path : String) (failure : ReadFailure)
  | other (text : String)

def FixtureFault.message : FixtureFault → String
  | .raggedRow index width columns =>
    s!"row {index} has {width} values but {columns} columns are declared"
  | .invalidJson failure => s!"invalid rows json: {failure.message}"
  | .unreadable path failure => s!"read {path}: {failure.message}"
  | .other text => text

inductive Error where
  /-- The call is not of the kind that is expected next. -/
  | unexpectedCall (call next : String)
  /-- No expectation takes the call. -/
  | notExpected (call : String) (allFulfilled : Bool)
  | queryMismatch (call query pattern : String)
  | argumentMismatch (call query args expected : String)
  | argumentConversion (call query args expectation : String) (source : Incomparable)
  /-- The call was taken, but the expectation has nothing to answer. -/
  | missingOutcome (call query args missing expectation : String)
  /-- The declared fault of the expectation that took the call. -/
  | injected (fault : Fault)
  | unfulfilledExpectation (expectation : String)
  | statementNotClosed (expectation : String)
  | invalidPattern (pattern reason : String)
  | unknownDsn (dsn : String)
  | resultUnavailable (field : String) (source : Fault)
  | fixture (fault : FixtureFault)

namespace Error

def code : Error → String
  | .unexpectedCall .. => "unexpected_call"
  | .notExpected .. => "not_expected"
  | .queryMismatch .. => "query_mismatch"
  | .argumentMismatch .. => "argument_mismatch"
  | .argumentConversion .. => "argument_conversion"
  | .missingOutcome .. => "missing_outcome"
  | .injected .. => "injected"
  | .unfulfilledExpectation .. => "unfulfilled_expectation"
  | .statementNotClosed .. => "statement_not_closed"
  | .invalidPattern .. => "invalid_pattern"
  | .unknownDsn .. => "unknown_dsn"
  | .resultUnavailable .. => "result_unavailable"
  | .fixture .. => "fixture"

/-- The wording of an error, without the reason why a pattern is invalid. -/
def headline : Error → String
  | .unexpectedCall call next => s!"call to {call} was not expected, next expectation is: {next}"
  | .notExpected call allFulfilled =>
    (if allFulfilled then "all expectations were already fulfilled, " else "")
      ++ s!"call to {call} was not expected"
  | .queryMismatch call query pattern =>
    s!"{call}: query '{query}' does not match pattern '{pattern}'"
  | .argumentMismatch call query args expected =>
    s!"{call}: query '{query}', args {args} do not match expected {expected}"
  | .argumentConversion call query args expectation source =>
    s!"{call}: query '{query}', args {args} failed to match with error \"{source.message}\", "
      ++ s!"expectation: {expectation}"
  | .missingOutcome call query args missing expectation =>
    s!"{call}: query '{query}' with args {args} must return a {missing}, "
      ++ s!"but it was not set for expectation: {expectation}"
  | .injected fault => fault.message
  | .unfulfilledExpectation expectation =>
    s!"there is a remaining expectation which was not matched: {expectation}"
  | .statementNotClosed expectation =>
    s!"prepared statement was expected to be closed but never was: {expectation}"
  | .invalidPattern pattern _ => s!"invalid query pattern '{pattern}'"
  | .unknownDsn dsn => s!"no mock session registered for dsn '{dsn}'"
  | .resultUnavailable field source => s!"exec result has no {field}: {source.message}"
  | .fixture fault => s!"fixture error: {fault.message}"

def message (e : Error) : String :=
  match e with
  | .invalidPattern _ reason => s!"{e.headline}: {reason}"
  | e => e.headline

/-- The wording of the error behind an error. -/
def source? : Error → Option String
  | .argumentConversion _ _ _ _ source => some source.message
  | .resultUnavailable _ source => some source.message
  | .injected fault => fault.source?
  | _ => none

def fault? : Error → Option Fault
  | .injected fault => some fault
  | _ => none

end Error

end ScriptedDb
