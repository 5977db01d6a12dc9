/-! An automaton takes 32 bytes for a state, 8 more for each transition of a state that has a list
of them, and 4 more for each way out of a fork. -/

namespace ScriptedDb.Pattern

/-- An automaton so far: how many states it has and how many bytes they take. -/
structure Growth where
  states : Nat := 0
  bytes : Nat := 0

namespace Growth

/-- Add a number of states, and bytes beside those that every state takes. -/
def add (g : Growth) (states : Nat := 1) (extra : Nat := 0) : Growth :=
  { states := g.states + states, bytes := g.bytes + 32 * states + extra }

def addChoices (g : Growth) (transitions : Nat) : Growth :=
  g.add 1 (8 * transitions)

def addFork (g : Growth) (ways : Nat) : Growth :=
  g.add 1 (4 * ways)

/-- Grow a number of times, but no further once a limit is passed. -/
def times (limit : Nat) (grow : Growth → Growth) : Nat → Growth → Growth
  | 0, g => g
  | n + 1, g => if limit < g.bytes then g else times limit grow n (grow g)

end Growth

end ScriptedDb.Pattern
