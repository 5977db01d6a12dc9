import ScriptedDb.Expectation.Basic

/-! Walking through the expectations for one call. Each attempt is made at once, and nothing else in
a scan touches the expectations, so scans of several calls may take turns attempt by attempt. -/

namespace ScriptedDb

/-- What a scan has learned so far: how many expectations were already fulfilled, and the first
comparison of arguments that failed, with the index of its expectation. -/
structure Progress where
  fulfilled : Nat := 0
  conversion : Option (Nat × Incomparable) := none

inductive Verdict where
  /-- The expectation at `index` took the call. -/
  | claimed (index : Nat) (outcome : Outcome)
  /-- The expectation at `index` is next and of another kind. -/
  | outOfOrder (index : Nat)
  /-- The expectation at `index` is next and refuses the call. -/
  | rejected (index : Nat) (rejection : Rejection)
  /-- All expectations were attempted and none took the call. -/
  | exhausted (progress : Progress)

def Verdict.claimed? : Verdict → Option Nat
  | .claimed index _ => some index
  | _ => none

namespace Progress

/-- Remember a failed comparison, unless there was one before. -/
def note (p : Progress) (index : Nat) (failure : Incomparable) : Progress :=
  { p with conversion := p.conversion.or (some (index, failure)) }

/-- What an attempt on the expectation at `index` means for the scan. -/
def observe (p : Progress) (ordered : Bool) (index : Nat) : Attempt → Progress ⊕ Verdict
  | .alreadyFulfilled => .inl { p with fulfilled := p.fulfilled + 1 }
  | .wrongKind => if ordered then .inr (.outOfOrder index) else .inl p
  | .rejected rejection =>
    if ordered then .inr (.rejected index rejection)
    else
      match rejection with
      | .conversion failure => .inl (p.note index failure)
      | _ => .inl p
  | .claimed outcome => .inr (.claimed index outcome)

end Progress

/-- Scan expectations, the first of which has the given index: the verdict, and the expectations
afterwards. -/
def scan (ordered : Bool) (call : Call) (index : Nat) (p : Progress) :
    List Expectation → Verdict × List Expectation
  | [] => (.exhausted p, [])
  | e :: rest =>
    match p.observe ordered index (e.tryClaim call).1 with
    | .inr verdict => (verdict, (e.tryClaim call).2 :: rest)
    | .inl p =>
      let (verdict, rest) := scan ordered call (index + 1) p rest
      (verdict, (e.tryClaim call).2 :: rest)

end ScriptedDb
