import ScriptedDb.Value.Agreement

namespace ScriptedDb

/-- A matcher that the author of a script supplies: a pure test that may fail, and its name in
messages. -/
structure Matcher where
  accepts : Value → Except Incomparable Bool
  description : String := "<custom matcher>"

inductive Argument where
  /-- Matches any value, null included. -/
  | any
  | value (v : Value)
  | custom (m : Matcher)

namespace Argument

def accepts : Argument → Value → Except Incomparable Bool
  | .any, _ => .ok true
  | .value expected, actual => expected.agrees actual
  | .custom m, actual => m.accepts actual

def render : Argument → String
  | .any => "<any>"
  | .value v => v.render
  | .custom m => m.description

def debug : Argument → String
  | .any => "Any"
  | .value v => s!"Value({v.debug})"
  | .custom m => s!"Custom({Text.quoted m.description})"

def renderList (args : List Argument) : String :=
  "[" ++ ", ".intercalate (args.map render) ++ "]"

/-- Whether declared arguments match values position by position. The first position that does not
match decides, by failing or by its answer. -/
def acceptsEach : List Argument → List Value → Except Incomparable Bool
  | a :: as, v :: vs =>
    match a.accepts v with
    | .ok true => acceptsEach as vs
    | .ok false => .ok false
    | .error e => .error e
  | _, _ => .ok true

/-- Whether declared arguments match the arguments of a call. Without a declaration anything
matches; otherwise there must be as many. -/
def acceptsAll (declared : Option (List Argument)) (actual : List Value) :
    Except Incomparable Bool :=
  match declared with
  | none => .ok true
  | some as => if as.length = actual.length then acceptsEach as actual else .ok false

end Argument

end ScriptedDb
