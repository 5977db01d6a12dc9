namespace ScriptedDb.Pattern

inductive Fault where
  | unclosedGroup
  | unopenedGroup
  | unclosedClass
  | nothingToRepeat
  | unclosedCount
  | missingCount
  | greatCount
  | reversedCount
  | unfinishedEscape
  | unknownEscape
  | badCodePoint
  | backreference
  | lookAround
  | badFlags
  | badGroupName
  | duplicateGroupName
  | escapeInClass
  | classInRange
  | reversedRange
  | unknownProperty
  | unknownBoundary
  | needsUnicode
  | matchesNonText
  | tooDeep
  | tooLarge
  deriving DecidableEq, Repr

/-- The phrase that names a fault. A full report would also quote the pattern and mark the place of
the fault, which this text does not. -/
def Fault.message : Fault → String
  | .unclosedGroup => "unclosed group"
  | .unopenedGroup => "unopened group"
  | .unclosedClass => "unclosed character class"
  | .nothingToRepeat => "repetition operator missing expression"
  | .unclosedCount => "unclosed counted repetition"
  | .missingCount => "repetition quantifier expects a valid decimal"
  | .greatCount => "decimal literal invalid"
  | .reversedCount => "invalid repetition count range, the start must be at most the end"
  | .unfinishedEscape => "incomplete escape sequence, reached end of pattern prematurely"
  | .unknownEscape => "unrecognized escape sequence"
  | .badCodePoint => "hexadecimal literal is not a Unicode scalar value"
  | .backreference => "backreferences are not supported"
  | .lookAround => "look-around is not supported"
  | .badFlags => "invalid flags"
  | .badGroupName => "invalid capture group name"
  | .duplicateGroupName => "duplicate capture group name"
  | .escapeInClass => "invalid escape sequence found in character class"
  | .classInRange => "invalid range boundary, must be a literal"
  | .reversedRange => "invalid character class range, the start must be at most the end"
  | .unknownProperty => "Unicode property not found"
  | .unknownBoundary => "unrecognized word boundary"
  | .needsUnicode => "Unicode not allowed here"
  | .matchesNonText => "pattern can match invalid UTF-8"
  | .tooDeep => "exceeded the maximum depth of nesting"
  | .tooLarge => "compiled pattern exceeds its size limit"

end ScriptedDb.Pattern
