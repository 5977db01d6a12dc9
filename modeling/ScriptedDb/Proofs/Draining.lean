import ScriptedDb.Proofs.Modes
import ScriptedDb.Proofs.Verification

/-! A call may fit expectations further down the script too, but a scan meets the one whose turn it
is first. -/

namespace ScriptedDb

/-- The operation writes a script: it declares an expectation or adds to one, and does not ask for a
statement to be closed. -/
def Session.Operation.writes : Session.Operation → Bool
  | .expect .. | .expectStatementExec _ | .expectStatementQuery _ => true
  | .refine _ .mustBeClosed => false
  | .refine .. => true
  | _ => false

namespace Session

variable {s : Session} {front script rest : List Expectation} {e : Expectation} {request : Request}
  {requests : List Request}

/-- After a script was written on a new session, nothing is claimed and no statement has to be
closed. -/
theorem pending_of_writes (hNew : s.records = []) {ops : List Operation}
    (hWrites : ∀ op ∈ ops, op.writes = true) (he : e ∈ (afterAll operate ops s).records) :
    e.fulfilled = false ∧ e.mustBeClosed = false := by
  have hOperation {m : Moment Session Operation Response} (hm : m ∈ history operate ops s) :
      m.operation.writes = true := by
    apply hWrites
    rw [← map_operation_history operate ops s]
    exact List.mem_map_of_mem hm
  have hCloses : ∀ op ∈ ops, ∀ p, op ≠ .closeStatement p := by
    rintro op hop p rfl
    cases hWrites _ hop
  have hRecounts := recounts_afterAll hNew ops (closesHandedOut_history ops s hCloses)
  obtain ⟨index, hIndex⟩ := List.getElem?_of_mem he
  have hClaimed := hRecounts.claimed index
  have hMust := hRecounts.mustBeClosed index
  rw [isFulfilled, hIndex, Option.any_some] at hClaimed
  rw [hIndex, Option.any_some] at hMust
  constructor
  · rw [← Bool.not_eq_true, hClaimed]
    rintro ⟨m, hm, hClaim⟩
    have hWrite := hOperation hm
    cases hOp : m.operation with
    | request => simp [hOp, Operation.writes] at hWrite
    | _ => simp [Moment.claim?, hOp] at hClaim
  · rw [← Bool.not_eq_true, hMust]
    rintro ⟨m, hm, hRefine, -⟩
    have hWrite := hOperation hm
    simp [hRefine, Operation.writes] at hWrite

/-- A request that fits the first pending expectation claims it, in every mode. -/
theorem serve_of_front (hRecords : s.records = front ++ e :: rest)
    (hFront : ∀ e ∈ front, e.fulfilled = true) (hTakes : e.takes request.call = true) :
    s.claimFor? request = some ⟨front.length, e.outcome⟩ ∧
      (s.serve request).state = { s with records := front ++ e.fulfil :: rest } := by
  have hPasses : Passes s.config.ordered request.call s.records front.length := by
    intro e' he'
    rw [hRecords, List.take_left] at he'
    exact Expectation.stops_of_fulfilled (hFront e' he') _ _
  have he : s.records[front.length]? = some e := by simp [hRecords]
  have hDispatch := dispatch_of_takes hPasses he hTakes
  refine ⟨by simp only [claimFor?, hDispatch], ?_⟩
  rw [serve_state, hDispatch, hRecords]
  simp

/-- Requests that fit the pending expectations one after another claim them one after another. -/
theorem history_of_fits (hRecords : s.records = front ++ script)
    (hFront : ∀ e ∈ front, e.fulfilled = true) (hPending : ∀ e ∈ script, e.fulfilled = false)
    (hFits : ∀ (i : Nat) (request : Request), requests[i]? = some request →
      ∃ e, script[i]? = some e ∧ e.fits request.call = true) :
    (history serve requests s).map (fun m => (m.before.claimFor? m.operation).map Claim.index) =
        (List.range' front.length requests.length).map some ∧
      (afterAll serve requests s).records =
        front ++ (script.take requests.length).map Expectation.fulfil ++
          script.drop requests.length := by
  induction requests generalizing s front script with
  | nil => exact ⟨rfl, by simp [hRecords]⟩
  | cons request requests ih =>
    obtain ⟨e, he, hFit⟩ := hFits 0 request rfl
    obtain ⟨rest, rfl⟩ : ∃ rest, script = e :: rest := by
      cases script with
      | nil => cases he
      | cons e' rest =>
        obtain rfl : e' = e := Option.some.inj he
        exact ⟨rest, rfl⟩
    rw [List.forall_mem_cons] at hPending
    have hTakes : e.takes request.call = true := by simp [Expectation.takes, hPending.1, hFit]
    obtain ⟨hClaim, hState⟩ := serve_of_front hRecords hFront hTakes
    have hRecords' : (s.serve request).state.records = (front ++ [e.fulfil]) ++ rest := by
      rw [hState]
      simp
    have hFront' : ∀ e' ∈ front ++ [e.fulfil], e'.fulfilled = true := by
      intro e' he'
      rcases List.mem_append.mp he' with he' | he'
      · exact hFront e' he'
      · rw [List.mem_singleton.mp he']
        rfl
    obtain ⟨hClaims, hAfter⟩ := ih hRecords' hFront' hPending.2
      fun i request' hi => hFits (i + 1) request' hi
    constructor
    · rw [history_cons, List.map_cons, hClaims, hClaim, List.length_cons, List.range'_succ]
      simp
    · rw [afterAll_cons, hAfter]
      simp

/-- Verification goes past expectations that are met and reports the first one that is pending. -/
theorem verify_of_front (hRecords : s.records = front ++ rest)
    (hFront : ∀ e ∈ front, unmet? e = none) (hRest : ∀ e ∈ rest, e.fulfilled = false) :
    s.verify = match rest.head? with
      | none => .ok ()
      | some e => .error (.unfulfilledExpectation e.describe) := by
  have hNone : front.findSome? unmet? = none := List.findSome?_eq_none_iff.mpr hFront
  cases rest with
  | nil => simp [verify, hRecords, hNone]
  | cons e rest =>
    have hPending := hRest e List.mem_cons_self
    simp [verify, hRecords, List.findSome?_append, hNone, unmet?, hPending]

theorem firstUnfulfilled?_of_front (hRecords : s.records = front ++ rest)
    (hFront : ∀ e ∈ front, e.fulfilled = true) (hRest : ∀ e ∈ rest, e.fulfilled = false) :
    s.firstUnfulfilled? = rest.head? := by
  have hNone : front.find? (fun e => !e.fulfilled) = none := by
    rw [List.find?_eq_none]
    intro e he
    simp [hFront e he]
  cases rest with
  | nil => simp [firstUnfulfilled?, hRecords, hNone]
  | cons e rest =>
    simp [firstUnfulfilled?, hRecords, List.find?_append, hNone, hRest e List.mem_cons_self]

/-- The requests drain the script in order. Each claims the expectation whose turn it is, so that the
first ones are fulfilled and no others. Verification succeeds if these are all, and otherwise names
the next expectation, which is the first unfulfilled one. -/
structure Drains (s : Session) (requests : List Request) : Prop where
  claims : (history serve requests s).map (fun m => (m.before.claimFor? m.operation).map Claim.index) =
    (List.range requests.length).map some
  fulfilled (index : Nat) :
    (afterAll serve requests s).isFulfilled index = true ↔ index < requests.length
  length : requests.length ≤ s.records.length ∧
    (afterAll serve requests s).records.length = s.records.length
  done : requests.length = s.records.length →
    (afterAll serve requests s).verify = .ok () ∧
      (afterAll serve requests s).firstUnfulfilled? = none
  next (e : Expectation) : s.records[requests.length]? = some e →
    (afterAll serve requests s).verify = .error (.unfulfilledExpectation e.describe) ∧
      (afterAll serve requests s).firstUnfulfilled? = some e

/-- Requests that fit the expectations in order drain a script of which nothing is claimed and no
statement has to be closed. -/
theorem drains_of_fits (hPending : ∀ e ∈ s.records, e.fulfilled = false ∧ e.mustBeClosed = false)
    (hFits : ∀ (i : Nat) (request : Request), requests[i]? = some request →
      ∃ e, s.records[i]? = some e ∧ e.fits request.call = true) : s.Drains requests := by
  have hRecords : s.records = [] ++ s.records := rfl
  obtain ⟨hClaims, hAfter⟩ := history_of_fits hRecords (by simp) (fun e he => (hPending e he).1)
    hFits
  rw [List.nil_append] at hAfter
  have hLength : requests.length ≤ s.records.length := by
    rcases Nat.lt_or_ge s.records.length requests.length with hLt | hLe
    · obtain ⟨e, he, -⟩ := hFits _ _ (List.getElem?_eq_getElem hLt)
      simp at he
    · exact hLe
  have hFront : ∀ e ∈ (s.records.take requests.length).map Expectation.fulfil,
      e.fulfilled = true ∧ unmet? e = none := by
    intro e' he'
    obtain ⟨e, he, rfl⟩ := List.mem_map.mp he'
    have hMust := (hPending e (List.mem_of_mem_take he)).2
    refine ⟨rfl, ?_⟩
    simp [unmet?, Expectation.awaitsClose_eq, hMust]
  have hRest : ∀ e ∈ s.records.drop requests.length, e.fulfilled = false :=
    fun e he => (hPending e (List.mem_of_mem_drop he)).1
  have hVerify := verify_of_front hAfter (fun e he => (hFront e he).2) hRest
  have hFirst := firstUnfulfilled?_of_front hAfter (fun e he => (hFront e he).1) hRest
  rw [List.head?_drop] at hVerify hFirst
  refine ⟨?_, fun index => ?_, ⟨hLength, ?_⟩, fun hDone => ?_, fun e he => ?_⟩
  · rw [hClaims, List.range_eq_range']
    rfl
  · rw [isFulfilled, hAfter, List.getElem?_append]
    simp only [List.length_map, List.length_take, Nat.min_eq_left hLength]
    by_cases hIndex : index < requests.length
    · rw [if_pos hIndex, List.getElem?_map, List.getElem?_take_of_lt hIndex,
        List.getElem?_eq_getElem (Nat.lt_of_lt_of_le hIndex hLength)]
      simp [hIndex]
    · rw [if_neg hIndex]
      simp only [hIndex, iff_false, Option.any_eq_true, not_exists, not_and]
      intro e he
      simp [hRest e (List.mem_of_getElem? he)]
  · rw [hAfter]
    simp
    omega
  · rw [List.getElem?_eq_none (Nat.le_of_eq hDone.symm)] at hVerify hFirst
    exact ⟨hVerify, hFirst⟩
  · rw [he] at hVerify hFirst
    exact ⟨hVerify, hFirst⟩

/-- A script that asks for no statement to be closed is drained in order in every mode, by calls each
of which fits the expectation whose turn it is. -/
theorem script_drains_in_order (hNew : s.records = []) {ops : List Operation}
    (hWrites : ∀ op ∈ ops, op.writes = true)
    (hFits : ∀ (i : Nat) (request : Request), requests[i]? = some request →
      ∃ e, (afterAll operate ops s).records[i]? = some e ∧ e.fits request.call = true)
    (config : Config) : ((afterAll operate ops s).inMode config).Drains requests :=
  drains_of_fits (fun _ he => pending_of_writes hNew hWrites he) hFits

/-- An unordered lenient session claims in order and names the third expectation. The second call has
two expectations that it fits. -/
theorem script_drains_in_order_exec_twice :
    ∃ (s : Session) (ops : List Operation) (requests : List Request) (next : Expectation),
      ops = [.expect .begin "", .expect .exec "^$", .refine 1 (.result (.counts 1 2)),
        .expect .exec "^$"] ∧
      requests = [.begin, .exec "" []] ∧
      (history serve requests ((afterAll operate ops s).inMode ⟨false, false⟩)).map
        (fun m => (m.before.claimFor? m.operation).map Claim.index) = [some 0, some 1] ∧
      (afterAll operate ops s).records[2]? = some next ∧
      (afterAll serve requests ((afterAll operate ops s).inMode ⟨false, false⟩)).verify =
        .error (.unfulfilledExpectation next.describe) := by
  let s : Session := { dsn := "" }
  let ops : List Operation := [.expect .begin "", .expect .exec "^$",
    .refine 1 (.result (.counts 1 2)), .expect .exec "^$"]
  let requests : List Request := [.begin, .exec "" []]
  have hFits : ∀ (i : Nat) (request : Request), requests[i]? = some request →
      ∃ e, (afterAll operate ops s).records[i]? = some e ∧ e.fits request.call = true := by
    intro i request hi
    match i with
    | 0 =>
      cases hi
      exact ⟨_, rfl, rfl⟩
    | 1 =>
      cases hi
      exact ⟨_, rfl, rfl⟩
  have hWrites : ∀ op ∈ ops, op.writes = true := by decide
  have hDrains := script_drains_in_order rfl hWrites hFits ⟨false, false⟩
  exact ⟨s, ops, requests, _, rfl, rfl, hDrains.claims, rfl, (hDrains.next _ rfl).1⟩

end Session

end ScriptedDb
