import ScriptedDb.Text.Quoted

/-! A declared fault has an identity of its own, so a caller can tell that it received the very
fault that was declared and not another one with the same text. -/

namespace ScriptedDb

inductive Fault.Cause where
  /-- A plain message. -/
  | message (text : String)
  /-- An input or output error of the kind "broken pipe". -/
  | brokenPipe (text : String)
  /-- An error that wraps another one with a plain message. -/
  | wrapped (outer inner : String)
  deriving DecidableEq

/-- A declared fault. Faults with the same token are one fault. -/
structure Fault where
  token : Nat
  cause : Fault.Cause
  deriving DecidableEq

namespace Fault

def same (a b : Fault) : Bool :=
  a.token == b.token

def message (f : Fault) : String :=
  match f.cause with
  | .message text => text
  | .brokenPipe text => text
  | .wrapped outer _ => outer

def debugMessage (text : String) : String :=
  s!"MessageError({Text.quoted text})"

def debug (f : Fault) : String :=
  match f.cause with
  | .message text => debugMessage text
  | .brokenPipe text =>
    "Custom \x7b kind: BrokenPipe, error: " ++ Text.quoted text ++ " \x7d"
  | .wrapped outer inner => s!"Wrapped({Text.quoted outer}, {debugMessage inner})"

def source? (f : Fault) : Option String :=
  match f.cause with
  | .wrapped _ inner => some inner
  | _ => none

def ioKind? (f : Fault) : Option String :=
  match f.cause with
  | .brokenPipe _ => some "BrokenPipe"
  | _ => none

end Fault

end ScriptedDb
