import ScriptedDb.Pattern.Parser
import ScriptedDb.Pattern.Match
import ScriptedDb.Error

namespace ScriptedDb

structure QueryPattern where
  text : String
  regex : Pattern.Regex

namespace QueryPattern

/-- The pattern that a text writes. The reason of a failure is the phrase of its fault, not a report
that quotes the pattern and marks a place in it. -/
def ofText (text : String) : Except Error QueryPattern :=
  match Pattern.parse text.toList with
  | .ok regex => .ok ⟨text, regex⟩
  | .error fault => .error (.invalidPattern text fault.message)

def isMatch (p : QueryPattern) (query : String) : Bool :=
  p.regex.isMatch query.toList

end QueryPattern

end ScriptedDb
