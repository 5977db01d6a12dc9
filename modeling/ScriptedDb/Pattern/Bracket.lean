import ScriptedDb.Pattern.Escape

/-! Reading classes in brackets. For each open bracket a stack holds what stood before it, and on
top of it the left operand of a combination, if there is one. -/

namespace ScriptedDb.Pattern

structure ReadClass where
  cls : CharClass
  depth : Nat := 0

def ReadClass.ofChar (c : Char) : ReadClass :=
  ⟨.span c c, 0⟩

/-- Items side by side, backwards. -/
abbrev Items := List ReadClass

/-- The class that items side by side make up. Two or more nest one level deeper. -/
def unite (items : Items) : ReadClass :=
  match items with
  | [] => ⟨.empty, 0⟩
  | [item] => item
  | items =>
    { cls := .ofSpans (items.flatMap fun item => item.cls.spans.toList)
      depth := 1 + items.foldl (fun d item => max d item.depth) 0 }

inductive SetOp where
  | intersection
  | difference
  | symmetricDifference

/-- Combine two classes; where case is ignored, each takes in its case variants first. -/
def SetOp.apply (op : SetOp) (f : Flags) (a b : ReadClass) : ReadClass :=
  let left := f.caseMode.close a.cls
  let right := f.caseMode.close b.cls
  let cls := match op with
    | .intersection => left.intersection right
    | .difference => left.difference right
    | .symmetricDifference => left.symmetricDifference right
  ⟨cls, 1 + max a.depth b.depth⟩

/-- What the reader of a class comes back to. -/
inductive ClassFrame where
  /-- An open bracket, with the items before it. -/
  | bracket (before : Items) (negated : Bool)
  /-- A combination, with its left operand. -/
  | operand (op : SetOp) (left : ReadClass)

/-- Complete the combination on top of the stack with its right operand. -/
def closeOperand (f : Flags) (item : ReadClass) (stack : List ClassFrame) :
    ReadClass × List ClassFrame :=
  match stack with
  | .operand op left :: stack => (op.apply f left item, stack)
  | stack => (item, stack)

def asciiClasses : List (String × String) := [
  ("alnum", "30-39 41-5A 61-7A"), ("alpha", "41-5A 61-7A"), ("ascii", "0-7F"),
  ("blank", "9 20"), ("cntrl", "0-1F 7F"), ("digit", "30-39"), ("graph", "21-7E"),
  ("lower", "61-7A"), ("print", "20-7E"), ("punct", "21-2F 3A-40 5B-60 7B-7E"),
  ("space", "9-D 20"), ("upper", "41-5A"), ("word", "30-39 41-5A 5F 61-7A"),
  ("xdigit", "30-39 41-46 61-66")]

/-- Read an ASCII class after its opening bracket: a name between colons and a closing bracket.
Anything else is no such class. -/
def readAsciiClass? (cs : List Char) : Option (Bool × CharClass × List Char) :=
  match cs with
  | ':' :: cs =>
    let (negated, cs) := match cs with
      | '^' :: cs => (true, cs)
      | cs => (false, cs)
    match cs.dropWhile (· != ':') with
    | ':' :: ']' :: rest =>
      (asciiClasses.lookup (String.ofList (cs.takeWhile (· != ':')))).map fun table =>
        (negated, .ofHex [table], rest)
    | _ => none
  | _ => none

/-- Read what may follow an opening bracket before the first item: a negation, hyphens, and a
closing bracket that stands for itself. -/
def readOpening (f : Flags) (cs : List Char) : Except Fault (Bool × Items × List Char) :=
  let hyphens (cs : List Char) : Items × List Char :=
    let (ds, rest) := f.collect (· == '-') cs
    (ds.map ReadClass.ofChar, rest)
  let (negated, cs) := match f.skip cs with
    | '^' :: cs => (true, f.skip cs)
    | cs => (false, cs)
  match hyphens cs with
  | (_, []) => .error .unclosedClass
  | ([], ']' :: rest) =>
    match f.skip rest with
    | [] => .error .unclosedClass
    | rest => .ok (negated, [.ofChar ']'], rest)
  | (items, rest) => .ok (negated, items, rest)

def readItem (f : Flags) (cs : List Char) : Except Fault (Primitive × List Char) :=
  match cs with
  | [] => .error .unclosedClass
  | '\\' :: cs => readEscape f cs
  | c :: cs => .ok (.literal c, cs)

/-- A literal that may stand in a class: outside Unicode only ASCII. -/
def classLiteral (f : Flags) (c : Char) : Except Fault Char :=
  if f.unicode || c.toNat < 128 then .ok c else .error .needsUnicode

/-- Read a character, a range or a named set. A hyphen before a closing bracket or another hyphen
makes no range. -/
def readRange (f : Flags) (cs : List Char) : Except Fault (ReadClass × List Char) := do
  let (first, rest) ← readItem f cs
  let rest := f.skip rest
  let range := match rest with
    | '-' :: after =>
      if f.afterHyphen? after = some ']' ∨ f.afterHyphen? after = some '-' then none
      else some (f.skip after)
    | _ => none
  match range with
  | none =>
    if rest.isEmpty then .error .unclosedClass
    else
      match first with
      | .literal c => (classLiteral f c).map fun c => (.ofChar c, rest)
      | .set cls => .ok (⟨cls, 0⟩, rest)
      | .look _ => .error .escapeInClass
  | some after =>
    let (second, rest) ← readItem f after
    match first, second with
    | .literal a, .literal b =>
      let a ← classLiteral f a
      let b ← classLiteral f b
      if a ≤ b then .ok (⟨.span a b, 0⟩, rest) else .error .reversedRange
    | _, _ => .error .classInRange

/-- A class in brackets. Outside Unicode it must not be negated, since what it leaves out has bytes
that are no text. -/
def bracket (f : Flags) (negated : Bool) (body : ReadClass) : Except Fault ReadClass :=
  if negated && !f.unicode then .error .matchesNonText
  else .ok ⟨(f.caseMode.close body.cls).negateIf negated, body.depth + 1⟩

/-- The combination that two equal characters write. -/
def setOp? (c : Char) : Option SetOp :=
  match c with
  | '&' => some .intersection
  | '-' => some .difference
  | '~' => some .symmetricDifference
  | _ => none

/-- Read until the outermost bracket is closed. Every step takes a character at least. -/
def readClassLoop (f : Flags) :
    (bound : Nat) → Items → List ClassFrame → List Char → Except Fault (ReadClass × List Char)
  | 0, _, _, _ => .error .unclosedClass
  | bound + 1, items, stack, cs =>
    match f.skip cs with
    | [] => .error .unclosedClass
    | '[' :: cs =>
      match readAsciiClass? cs with
      | some (negated, set, rest) =>
        if negated && !f.unicode then .error .matchesNonText
        else
          let cls := (f.caseMode.close set).negateIf negated
          readClassLoop f bound (⟨cls, 0⟩ :: items) stack rest
      | none => do
        let (negated, inner, rest) ← readOpening f cs
        readClassLoop f bound inner (.bracket items negated :: stack) rest
    | ']' :: cs =>
      match closeOperand f (unite items) stack with
      | (body, .bracket before negated :: stack) => do
        let item ← bracket f negated body
        if stack.isEmpty then .ok (item, cs)
        else readClassLoop f bound (item :: before) stack cs
      | _ => .error .unclosedClass
    | c :: cs =>
      match setOp? c, cs with
      | some op, d :: rest =>
        if c = d then
          let (left, stack) := closeOperand f (unite items) stack
          readClassLoop f bound [] (.operand op left :: stack) rest
        else do
          let (item, rest) ← readRange f (c :: cs)
          readClassLoop f bound (item :: items) stack rest
      | _, _ => do
        let (item, rest) ← readRange f (c :: cs)
        readClassLoop f bound (item :: items) stack rest

def readClass (f : Flags) (cs : List Char) : Except Fault (ReadClass × List Char) := do
  let (negated, items, rest) ← readOpening f cs
  readClassLoop f (rest.length + 1) items [.bracket [] negated] rest

end ScriptedDb.Pattern
