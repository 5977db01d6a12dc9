import ScriptedDb.Pattern.Automaton.Growth

/-! The literals of a choice are put into a tree by their bytes. A literal that ends at a node
separates what is put there before it from what is put there after it, so that earlier branches are
preferred. -/

namespace ScriptedDb.Pattern

/-- A node of a tree of literals: the nodes below it, each with its byte, that were added since a
literal last ended here, and those of the rounds before, the latest first. -/
inductive LiteralTree where
  | node (current : List (Nat × LiteralTree)) (rounds : List (List (Nat × LiteralTree)))

namespace LiteralTree

def empty : LiteralTree := .node [] []

def isLeaf : LiteralTree → Bool
  | .node current rounds => current.isEmpty && rounds.all List.isEmpty

/-- Add a node for a byte below others, or change the one that there is. -/
def update (b : Nat) (f : LiteralTree → LiteralTree) :
    List (Nat × LiteralTree) → List (Nat × LiteralTree)
  | [] => [(b, f empty)]
  | (c, t) :: rest => if b = c then (c, f t) :: rest else (c, t) :: update b f rest

def insert : List Nat → LiteralTree → LiteralTree
  | [], .node current rounds =>
    if current.isEmpty && rounds.all List.isEmpty && !rounds.isEmpty then .node current rounds
    else .node [] (current :: rounds)
  | b :: bs, .node current rounds => .node (update b (insert bs) current) rounds

mutual

/-- Grow by the states of a node: one for the nodes of each round, and a fork between them and,
for each literal that ends here, the end. -/
def grow : LiteralTree → Growth → Growth
  | .node current rounds, g =>
    let (ways, g) := growRounds rounds (growRound current (rounds.length, g))
    g.addFork ways

/-- Grow by the states of the nodes of a round and of what is below them. `ways` counts the ways
out of the fork so far. -/
def growRound : List (Nat × LiteralTree) → Nat × Growth → Nat × Growth
  | nodes, (ways, g) =>
    let g := growBelow nodes g
    match nodes.length with
    | 0 => (ways, g)
    | 1 => (ways + 1, g.add)
    | n => (ways + 1, g.addChoices n)

def growRounds : List (List (Nat × LiteralTree)) → Nat × Growth → Nat × Growth
  | [], acc => acc
  | round :: rounds, acc => growRounds rounds (growRound round acc)

def growBelow : List (Nat × LiteralTree) → Growth → Growth
  | [], g => g
  | (_, t) :: rest, g => growBelow rest (if t.isLeaf then g else t.grow g)

end

def ofLiterals (literals : List (List Nat)) : LiteralTree :=
  literals.foldl (fun t bytes => t.insert bytes) empty

end LiteralTree

def growLiterals (g : Growth) (literals : List (List Nat)) : Growth :=
  (LiteralTree.ofLiterals literals).grow g.add

end ScriptedDb.Pattern
