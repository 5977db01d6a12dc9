import Std.Data.HashMap
import ScriptedDb.Pattern.Automaton.Growth
import ScriptedDb.Pattern.CharClass
import ScriptedDb.Text.Utf8.Spans

/-! The bytes of a class outside ASCII are read by a small automaton. States that could be shared
are found again through a table with a fixed number of slots, in which a later state may displace an
earlier one. -/

namespace ScriptedDb.Pattern

structure Transition where
  low : Nat
  high : Nat
  target : Nat
  deriving DecidableEq

/-- The hash of some numbers: exclusive or with each, then multiplication by a prime. -/
def hashOf (numbers : List Nat) : UInt64 :=
  numbers.foldl (fun h n => (h ^^^ UInt64.ofNat n) * 1099511628211) 14695981039346656037

/-- Grow by the states of a class in ASCII: one that reads a byte and one that follows it. -/
def growAscii (g : Growth) (cls : CharClass) : Growth :=
  g.add.addChoices cls.spans.size

def sequences (cls : CharClass) : List (List Text.Utf8.ByteSpan) :=
  cls.spans.toList.flatMap fun (low, high) => Text.Utf8.byteSpans low high

/-- A state that is not yet complete: its transitions so far, and the bytes that the transition to
the next such state reads. -/
structure OpenState where
  transitions : Array Transition := #[]
  pending : Option Text.Utf8.ByteSpan := none

/-- The transitions of a state whose pending one leads to a given state. -/
def OpenState.close (o : OpenState) (target : Nat) : Array Transition :=
  match o.pending with
  | some (low, high) => o.transitions.push ⟨low, high, target⟩
  | none => o.transitions

structure ForwardStates where
  growth : Growth
  known : Std.HashMap UInt64 (Array Transition × Nat) := {}

namespace ForwardStates

/-- Add a state with given transitions under a slot. -/
def addState (b : ForwardStates) (slot : UInt64) (transitions : Array Transition) :
    Nat × ForwardStates :=
  let id := b.growth.states
  (id, { growth := b.growth.addChoices transitions.size
         known := b.known.insert slot (transitions, id) })

/-- The number of a state with given transitions, which is added unless its slot holds it. -/
def state (b : ForwardStates) (transitions : Array Transition) : Nat × ForwardStates :=
  let slot := hashOf (transitions.toList.flatMap fun t => [t.low, t.high, t.target]) % 10000
  match b.known[slot]? with
  | some (found, id) => if found = transitions then (id, b) else b.addState slot transitions
  | none => b.addState slot transitions

/-- Complete the open states of a list, the last one first; the number of the first one. -/
def closeAll (target : Nat) (b : ForwardStates) : List OpenState → Nat × ForwardStates
  | [] => (target, b)
  | o :: os =>
    let (next, b) := b.closeAll target os
    b.state (o.close next)

/-- Add a sequence. The open states read the sequence before; those that the two have in common
stay open, the others are completed. -/
def addSequence (target : Nat) (b : ForwardStates) :
    List OpenState → List Text.Utf8.ByteSpan → List OpenState × ForwardStates
  | o :: os, s :: rest =>
    if o.pending = some s then
      let (os, b) := b.addSequence target os rest
      (o :: os, b)
    else
      let (next, b) := b.closeAll target os
      ({ transitions := o.close next, pending := some s } :: rest.map fun s => { pending := some s },
        b)
  | os, _ => (os, b)

end ForwardStates

def growForwards (g : Growth) (cls : CharClass) : Growth :=
  let target := g.states
  let (os, b) := (sequences cls).foldl (fun (os, b) s => b.addSequence target os s)
    ([{}], ({ growth := g.add } : ForwardStates))
  (b.closeAll target os).2.growth

structure BackwardStates where
  growth : Growth
  known : Std.HashMap UInt64 (Transition × Nat) := {}

def BackwardStates.addState (b : BackwardStates) (slot : UInt64) (t : Transition) :
    Nat × BackwardStates :=
  let id := b.growth.states
  (id, { growth := b.growth.add, known := b.known.insert slot (t, id) })

/-- The number of the state with a given transition, which is added unless its slot holds it. -/
def BackwardStates.state (b : BackwardStates) (t : Transition) : Nat × BackwardStates :=
  let slot := hashOf [t.target, t.low, t.high] % 1000
  match b.known[slot]? with
  | some (found, id) => if found = t then (id, b) else b.addState slot t
  | none => b.addState slot t

/-- Grow by the states of a class, read backwards: a fork, the state it ends in, and a chain of
states for each sequence. -/
def growBackwards (g : Growth) (cls : CharClass) : Growth :=
  let seqs := sequences cls
  let g := g.addFork seqs.length
  let stop := g.states
  let b := seqs.foldl (fun b s =>
    (s.foldl (fun (target, b) (low, high) => b.state ⟨low, high, target⟩) (stop, b)).2)
    ({ growth := g.add } : BackwardStates)
  b.growth

def growClass (backward : Bool) (g : Growth) (cls : CharClass) : Growth :=
  if cls.isAscii then growAscii g cls
  else if backward then growBackwards g cls
  else growForwards g cls

end ScriptedDb.Pattern
