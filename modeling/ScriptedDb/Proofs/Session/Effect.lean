import Mathlib.Data.List.Basic
import ScriptedDb.Proofs.Session.Serve
import ScriptedDb.Session.Operation

/-! An operation changes one expectation at most, and what is added comes after the others and is
blank. `Session.records_operate_cases` says this once for all operations. -/

namespace ScriptedDb

def Kind.hasQuery : Kind → Bool
  | .prepare | .exec | .query => true
  | _ => false

namespace Expectation

def mustBeClosed (e : Expectation) : Bool :=
  match e.payload with
  | .prepare _ _ mustBeClosed _ => mustBeClosed
  | _ => false

def closed (e : Expectation) : Bool :=
  match e.payload with
  | .prepare _ _ _ closed => closed
  | _ => false

theorem awaitsClose_eq (e : Expectation) : e.awaitsClose = (e.mustBeClosed && !e.closed) := by
  unfold awaitsClose mustBeClosed closed
  cases e.payload <;> rfl

@[simp] theorem fulfilled_refine (e : Expectation) (r : Refinement) :
    (e.refine r).fulfilled = e.fulfilled := by
  unfold refine
  split <;> rfl

@[simp] theorem fulfilled_markClosed (e : Expectation) :
    e.markClosed.fulfilled = e.fulfilled := by
  unfold markClosed
  split <;> rfl

@[simp] theorem kind_fulfil (e : Expectation) : e.fulfil.kind = e.kind := rfl

@[simp] theorem kind_markClosed (e : Expectation) : e.markClosed.kind = e.kind := by
  unfold markClosed kind
  cases h : e.payload <;> simp [h, Payload.kind]

@[simp] theorem kind_refine (e : Expectation) (r : Refinement) : (e.refine r).kind = e.kind := by
  unfold refine kind
  cases r <;> cases h : e.payload <;> simp [h, Payload.kind]

@[simp] theorem closed_fulfil (e : Expectation) : e.fulfil.closed = e.closed := rfl

@[simp] theorem closed_markClosed (e : Expectation) : e.markClosed.closed = (e.kind == .prepare) := by
  unfold markClosed closed kind
  cases h : e.payload <;> simp [h, Payload.kind]

@[simp] theorem closed_refine (e : Expectation) (r : Refinement) :
    (e.refine r).closed = e.closed := by
  unfold refine closed
  cases r <;> cases h : e.payload <;> simp [h]

@[simp] theorem mustBeClosed_fulfil (e : Expectation) : e.fulfil.mustBeClosed = e.mustBeClosed := rfl

@[simp] theorem mustBeClosed_markClosed (e : Expectation) :
    e.markClosed.mustBeClosed = e.mustBeClosed := by
  unfold markClosed mustBeClosed
  cases h : e.payload <;> simp [h]

@[simp] theorem mustBeClosed_refine_mustBeClosed (e : Expectation) :
    (e.refine .mustBeClosed).mustBeClosed = (e.kind == .prepare) := by
  unfold refine mustBeClosed kind
  cases h : e.payload <;> simp [h, Payload.kind]

theorem mustBeClosed_refine_of_ne {r : Refinement} (h : r ≠ .mustBeClosed) (e : Expectation) :
    (e.refine r).mustBeClosed = e.mustBeClosed := by
  unfold refine mustBeClosed
  cases r with
  | mustBeClosed => exact absurd rfl h
  | error | closeError | args | result | rows => cases h : e.payload <;> simp [h]

/-- Only the statement of a Prepare has marks. -/
theorem kind_of_closed {e : Expectation} (h : e.closed = true) : e.kind = .prepare := by
  unfold closed at h
  unfold kind
  cases hPayload : e.payload <;> simp_all [Payload.kind]

theorem kind_of_mustBeClosed {e : Expectation} (h : e.mustBeClosed = true) :
    e.kind = .prepare := by
  unfold mustBeClosed at h
  unfold kind
  cases hPayload : e.payload <;> simp_all [Payload.kind]

/-- As an expectation is declared: neither claimed nor marked. -/
structure Blank (e : Expectation) : Prop where
  fulfilled : e.fulfilled = false
  mustBeClosed : e.mustBeClosed = false
  closed : e.closed = false

end Expectation

namespace Session

def rework (s : Session) (operation : Operation) (index : Nat) (e : Expectation) : Expectation :=
  match operation with
  | .refine i r => if i = index then e.refine r else e
  | .closeStatement p => if p.record = index then e.markClosed else e
  | .request request =>
    if (s.claimFor? request).map Claim.index = some index then e.fulfil else e
  | _ => e

/-- The kind and the pattern of the expectation that an operation declares, if it declares one. -/
def declares? (s : Session) : Operation → Option (Kind × Option QueryPattern)
  | .expect kind pattern =>
    if kind.hasQuery then (QueryPattern.ofText pattern).toOption.map fun p => (kind, some p)
    else some (kind, none)
  | .expectStatementExec index => (s.patternAt? index).map fun p => (.exec, some p)
  | .expectStatementQuery index => (s.patternAt? index).map fun p => (.query, some p)
  | _ => none

@[simp] theorem kind_rework (s : Session) (operation : Operation) (index : Nat) (e : Expectation) :
    (s.rework operation index e).kind = e.kind := by
  unfold rework
  split
  · split <;> simp
  · split <;> simp
  · split <;> simp
  · rfl

theorem modify_eq_mapIdx {α : Type} (l : List α) (i : Nat) (f : α → α) :
    l.modify i f = l.mapIdx fun j a => if i = j then f a else a := by
  refine List.ext_getElem? fun j => ?_
  rw [List.getElem?_modify, List.getElem?_mapIdx]
  cases l[j]? with
  | none => rfl
  | some a => by_cases hj : i = j <;> simp [hj]

/-- What an operation does to the script: it reworks the expectations where they are. If it declares
an expectation, that one comes after them, blank and with nothing to hand out. -/
theorem records_operate_cases (operation : Operation) (s : Session) :
    (s.declares? operation = none ∧
      (s.operate operation).state.records = s.records.mapIdx (s.rework operation)) ∨
    ∃ e : Expectation, e.Blank ∧ e.outcome = {} ∧
      s.declares? operation = some (e.kind, e.payload.pattern?) ∧
      (s.operate operation).state.records = s.records.mapIdx (s.rework operation) ++ [e] := by
  have hSame : s.records.mapIdx (fun _ e => e) = s.records := by
    refine List.ext_getElem? fun j => ?_
    cases h : s.records[j]? <;> simp [List.getElem?_mapIdx, h]
  have hDeclare (payload : Payload) :
      (s.declare payload).records =
        s.records.mapIdx (fun _ e => e) ++ [({ payload } : Expectation)] := by
    rw [hSame]
    rfl
  cases operation with
  | setOrdered | setRequireExpectations => exact .inl ⟨rfl, hSame.symm⟩
  | refine i r => exact .inl ⟨rfl, modify_eq_mapIdx _ _ _⟩
  | closeStatement p => exact .inl ⟨rfl, modify_eq_mapIdx _ _ _⟩
  | expectStatementExec index | expectStatementQuery index =>
    simp only [operate, quietly, expectStatementExec, expectStatementQuery, declares?]
    cases hPattern : s.patternAt? index with
    | none => exact .inl ⟨rfl, hSame.symm⟩
    | some p => exact .inr ⟨_, ⟨rfl, rfl, rfl⟩, rfl, rfl, hDeclare _⟩
  | expect kind pattern =>
    cases kind with
    | close | begin | commit | rollback =>
      exact .inr ⟨_, ⟨rfl, rfl, rfl⟩, rfl, rfl, hDeclare _⟩
    | prepare | exec | query =>
      simp only [operate, expect, declares?, Kind.hasQuery, if_true]
      cases hPattern : QueryPattern.ofText pattern with
      | error e => exact .inl ⟨rfl, hSame.symm⟩
      | ok p => exact .inr ⟨_, ⟨rfl, rfl, rfl⟩, rfl, rfl, hDeclare _⟩
  | request request =>
    left
    refine ⟨rfl, ?_⟩
    have hRework (claim? : Option Claim) (hClaim : s.claimFor? request = claim?) :
        s.rework (.request request) = fun index e =>
          if claim?.map Claim.index = some index then e.fulfil else e := by
      rw [← hClaim]
      rfl
    rcases s.serve_cases request with
      ⟨index, e, -, -, -, hClaim, -, hState⟩ | ⟨-, hClaim, -, hState⟩
    · have hRecords : (s.operate (.request request)).state.records =
          s.records.modify index Expectation.fulfil := congrArg records hState
      rw [hRecords, modify_eq_mapIdx, hRework _ hClaim]
      simp only [Option.map_some, Option.some.injEq]
    · have hRecords : (s.operate (.request request)).state.records = s.records :=
        congrArg records hState
      rw [hRecords, hRework _ hClaim]
      simpa using hSame.symm

/-- An operation keeps the expectations where they are, and what it adds is blank. -/
theorem records_operate (operation : Operation) (s : Session) :
    ∃ added : List Expectation, (∀ e ∈ added, e.Blank) ∧
      (s.operate operation).state.records = s.records.mapIdx (s.rework operation) ++ added := by
  rcases s.records_operate_cases operation with ⟨-, hRecords⟩ | ⟨e, hBlank, -, -, hRecords⟩
  · exact ⟨[], by simp, by rw [hRecords, List.append_nil]⟩
  · refine ⟨[e], ?_, hRecords⟩
    intro e' he'
    rw [List.mem_singleton] at he'
    exact he' ▸ hBlank

theorem getElem?_operate (operation : Operation) {s : Session} {index : Nat} {e : Expectation}
    (he : s.records[index]? = some e) :
    (s.operate operation).state.records[index]? = some (s.rework operation index e) := by
  obtain ⟨added, -, hRecords⟩ := s.records_operate operation
  obtain ⟨hLt, -⟩ := List.getElem?_eq_some_iff.mp he
  rw [hRecords, List.getElem?_append_left (by simpa using hLt), List.getElem?_mapIdx, he]
  rfl

/-- What blank expectations do not have, an operation can only give to those that were there. -/
theorem any_operate {test : Expectation → Bool} (hBlank : ∀ e, e.Blank → test e = false)
    (operation : Operation) (s : Session) (index : Nat) :
    (s.operate operation).state.records[index]?.any test =
      s.records[index]?.any fun e => test (s.rework operation index e) := by
  cases he : s.records[index]? with
  | some e => rw [getElem?_operate operation he, Option.any_some, Option.any_some]
  | none =>
    obtain ⟨added, hAdded, hRecords⟩ := s.records_operate operation
    have hLe : s.records.length ≤ index := List.getElem?_eq_none_iff.mp he
    rw [hRecords, List.getElem?_append_right (by simpa using hLe), Option.any_none]
    cases hNew : added[index - (s.records.mapIdx (s.rework operation)).length]? with
    | none => rfl
    | some e => exact hBlank e (hAdded e (List.mem_of_getElem? hNew))

end Session

end ScriptedDb
