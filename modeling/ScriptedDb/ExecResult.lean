import ScriptedDb.Error

namespace ScriptedDb

/-- What an Exec call answers: two counts, or a fault that reading either of them raises. The call
itself succeeds in both cases. -/
inductive ExecResult where
  | counts (lastInsertId rowsAffected : Int64)
  | failed (fault : Fault)
  deriving DecidableEq

namespace ExecResult

def lastInsertId : ExecResult → Except Error Int64
  | .counts id _ => .ok id
  | .failed fault => .error (.resultUnavailable "last insert id" fault)

def rowsAffected : ExecResult → Except Error Int64
  | .counts _ rows => .ok rows
  | .failed fault => .error (.resultUnavailable "rows affected" fault)

/-- Equality of outcomes: faults are compared by identity. -/
def same : ExecResult → ExecResult → Bool
  | .counts a b, .counts c d => a == c && b == d
  | .failed a, .failed b => a.same b
  | _, _ => false

end ExecResult

end ScriptedDb
