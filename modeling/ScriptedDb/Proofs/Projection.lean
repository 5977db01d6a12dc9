import ScriptedDb.World.Operation

/-! The moments of a run of the world that concern a session are a run of the session alone, so what
is proved of sessions holds for whatever clients do elsewhere. -/

namespace ScriptedDb.World

def Operation.on? (id : SessionId) (operation : Operation) : Option Session.Operation :=
  operation.target.bind fun target => if target.1 = id then some target.2 else none

/-- The moments of a run that concern a session, as the session sees them. -/
def momentsOf (id : SessionId) (ops : List Operation) (w : World) :
    List (Moment Session Session.Operation Response) :=
  (history operate ops w).filterMap fun m =>
    (m.operation.on? id).map fun op => ⟨m.before.session id, op, m.answer, m.after.session id⟩

/-- An operation with a target is that operation on its session, and touches no other one. -/
theorem operate_of_target {operation : Operation} {id : SessionId} {op : Session.Operation}
    (h : operation.target = some (id, op)) (w : World) :
    (w.operate operation).answer = ((w.session id).operate op).answer ∧
      (w.operate operation).state.sessions =
        w.sessions.set id ((w.session id).operate op).state := by
  cases operation with
  | addTable | addSession | newSession | openNew | connect => cases h
  | direct =>
    cases h
    exact ⟨rfl, rfl⟩
  | execOn | queryOn | commit | rollback | execStatement | queryStatement | closeStatement
  | disconnect =>
    cases h
    exact ⟨rfl, rfl⟩
  | beginOn c =>
    cases h
    refine ⟨?_, rfl⟩
    simp only [operate, begin, on, Session.operate, Session.serve, Reply.map]
    cases (w.session c.session).begin.answer <;> rfl
  | prepareOn c text =>
    cases h
    refine ⟨?_, rfl⟩
    simp only [operate, prepare, on, Session.operate, Session.serve, Reply.map]
    cases ((w.session c.session).prepare text).answer with
    | error => rfl
    | ok st => cases st <;> rfl

/-- An operation without a target adds sessions at most. -/
theorem operate_of_target_eq_none {operation : Operation} (h : operation.target = none)
    (w : World) : ∃ added, (w.operate operation).state.sessions = w.sessions ++ added := by
  cases operation with
  | direct | beginOn | prepareOn | execOn | queryOn | disconnect | commit | rollback
  | execStatement | queryStatement | closeStatement => cases h
  | addTable => exact ⟨[], by simp [operate, addTable, quietly]⟩
  | addSession | newSession | openNew => exact ⟨_, rfl⟩
  | connect table dsn =>
    refine ⟨[], ?_⟩
    simp only [operate, connect, Reply.map, List.append_nil]
    split <;> rfl

variable {w : World} {id : SessionId} {operation : Operation}

theorem lt_length_operate (operation : Operation) (hId : id < w.sessions.length) :
    id < (w.operate operation).state.sessions.length := by
  cases hTarget : operation.target with
  | none =>
    obtain ⟨added, hSessions⟩ := operate_of_target_eq_none hTarget w
    rw [hSessions, List.length_append]
    exact Nat.lt_add_right _ hId
  | some target =>
    rw [(operate_of_target hTarget w).2, List.length_set]
    exact hId

theorem lt_length_afterAll (ops : List Operation) (hId : id < w.sessions.length) :
    id < (afterAll operate ops w).sessions.length := by
  induction ops generalizing w with
  | nil => exact hId
  | cons operation ops ih => exact ih (w.lt_length_operate operation hId)

/-- An operation on a session does to it what the session does. -/
theorem operate_of_on? {op : Session.Operation} (h : operation.on? id = some op)
    (hId : id < w.sessions.length) :
    (w.operate operation).answer = ((w.session id).operate op).answer ∧
      (w.operate operation).state.session id = ((w.session id).operate op).state := by
  obtain ⟨⟨id', op'⟩, hTarget, hOp⟩ := Option.bind_eq_some_iff.mp h
  obtain ⟨rfl, rfl⟩ : id' = id ∧ op' = op := by simpa using hOp
  obtain ⟨hAnswer, hSessions⟩ := operate_of_target hTarget w
  refine ⟨hAnswer, ?_⟩
  rw [session, hSessions, List.getElem?_set_self hId, Option.getD_some]

/-- Any other operation leaves the session as it is. -/
theorem session_operate_of_on?_eq_none (h : operation.on? id = none)
    (hId : id < w.sessions.length) : (w.operate operation).state.session id = w.session id := by
  cases hTarget : operation.target with
  | none =>
    obtain ⟨added, hSessions⟩ := operate_of_target_eq_none hTarget w
    rw [session, session, hSessions, List.getElem?_append_left hId]
  | some target =>
    have hNe : target.1 ≠ id := by
      intro hEq
      simp [Operation.on?, hTarget, hEq] at h
    rw [session, session, (operate_of_target hTarget w).2, List.getElem?_set_ne hNe]

/-- The moments of a run that concern a session are a run of the session. -/
theorem momentsOf_eq (hId : id < w.sessions.length) (ops : List Operation) :
    w.momentsOf id ops = history Session.operate (ops.filterMap (·.on? id)) (w.session id) := by
  induction ops generalizing w with
  | nil => rfl
  | cons operation ops ih =>
    have hRest := ih (w.lt_length_operate operation hId)
    simp only [momentsOf] at hRest
    simp only [momentsOf, history_cons, List.filterMap_cons]
    cases hOn : operation.on? id with
    | none =>
      rw [session_operate_of_on?_eq_none hOn hId] at hRest
      simpa using hRest
    | some op =>
      obtain ⟨hAnswer, hState⟩ := operate_of_on? hOn hId
      rw [hState] at hRest
      simp only [Option.map_some, history_cons, hAnswer, hState, hRest]

/-- What a run leaves of a session is what the session's own run leaves. -/
theorem session_afterAll (hId : id < w.sessions.length) (ops : List Operation) :
    (afterAll operate ops w).session id =
      afterAll Session.operate (ops.filterMap (·.on? id)) (w.session id) := by
  induction ops generalizing w with
  | nil => rfl
  | cons operation ops ih =>
    rw [afterAll_cons, ih (w.lt_length_operate operation hId), List.filterMap_cons]
    cases hOn : operation.on? id with
    | none => rw [session_operate_of_on?_eq_none hOn hId]
    | some op => rw [(operate_of_on? hOn hId).2, afterAll_cons]

end ScriptedDb.World
