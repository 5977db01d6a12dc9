import ScriptedDb.Event

namespace ScriptedDb

/-- One operation of a run: the state it found, its answer, and the state it left. -/
structure Moment (σ ω α : Type) where
  before : σ
  operation : ω
  answer : Except Error α
  after : σ

variable {σ ω α : Type}

def history (act : ω → σ → Reply σ α) : List ω → σ → List (Moment σ ω α)
  | [], _ => []
  | op :: ops, s =>
    ⟨s, op, (act op s).answer, (act op s).state⟩ :: history act ops (act op s).state

def afterAll (act : ω → σ → Reply σ α) : List ω → σ → σ
  | [], s => s
  | op :: ops, s => afterAll act ops (act op s).state

def answers (act : ω → σ → Reply σ α) (ops : List ω) (s : σ) : List (Except Error α) :=
  (history act ops s).map Moment.answer

@[simp] theorem history_nil (act : ω → σ → Reply σ α) (s : σ) : history act [] s = [] := rfl

@[simp] theorem history_cons (act : ω → σ → Reply σ α) (op : ω) (ops : List ω) (s : σ) :
    history act (op :: ops) s =
      ⟨s, op, (act op s).answer, (act op s).state⟩ :: history act ops (act op s).state := rfl

@[simp] theorem afterAll_nil (act : ω → σ → Reply σ α) (s : σ) : afterAll act [] s = s := rfl

@[simp] theorem afterAll_cons (act : ω → σ → Reply σ α) (op : ω) (ops : List ω) (s : σ) :
    afterAll act (op :: ops) s = afterAll act ops (act op s).state := rfl

theorem history_concat (act : ω → σ → Reply σ α) (ops : List ω) (op : ω) (s : σ) :
    history act (ops ++ [op]) s =
      history act ops s ++ [⟨afterAll act ops s, op, (act op (afterAll act ops s)).answer,
        (act op (afterAll act ops s)).state⟩] := by
  induction ops generalizing s with
  | nil => rfl
  | cons first ops ih => simp only [List.cons_append, history_cons, ih, afterAll_cons]

/-- The moment is its operation carried out. -/
def Moment.By (act : ω → σ → Reply σ α) (m : Moment σ ω α) : Prop :=
  m.answer = (act m.operation m.before).answer ∧ m.after = (act m.operation m.before).state

theorem by_of_mem_history {act : ω → σ → Reply σ α} {ops : List ω} {s : σ} {m : Moment σ ω α}
    (h : m ∈ history act ops s) : m.By act := by
  induction ops generalizing s with
  | nil => cases h
  | cons op ops ih =>
    rcases List.mem_cons.mp h with rfl | h
    · exact ⟨rfl, rfl⟩
    · exact ih h

theorem afterAll_append (act : ω → σ → Reply σ α) (ops more : List ω) (s : σ) :
    afterAll act (ops ++ more) s = afterAll act more (afterAll act ops s) := by
  induction ops generalizing s with
  | nil => rfl
  | cons op ops ih => simp only [List.cons_append, afterAll_cons, ih]

theorem exists_append_of_mem_history {act : ω → σ → Reply σ α} {ops : List ω} {s : σ}
    {m : Moment σ ω α} (h : m ∈ history act ops s) :
    ∃ earlier later, ops = earlier ++ later ∧ m.before = afterAll act earlier s := by
  induction ops generalizing s with
  | nil => cases h
  | cons op ops ih =>
    rcases List.mem_cons.mp h with rfl | h
    · exact ⟨[], op :: ops, rfl, rfl⟩
    · obtain ⟨earlier, later, rfl, hBefore⟩ := ih h
      exact ⟨op :: earlier, later, rfl, hBefore⟩

/-- What a run leaves comes of what each of its moments leaves. -/
theorem exists_afterAll_of_mem_history {act : ω → σ → Reply σ α} {ops : List ω} {s : σ}
    {m : Moment σ ω α} (h : m ∈ history act ops s) :
    ∃ later, afterAll act ops s = afterAll act later m.after := by
  induction ops generalizing s with
  | nil => cases h
  | cons op ops ih =>
    rcases List.mem_cons.mp h with rfl | h
    · exact ⟨ops, rfl⟩
    · exact ih h

/-- The operations of a run are those that its moments tell. -/
theorem map_operation_history (act : ω → σ → Reply σ α) (ops : List ω) (s : σ) :
    (history act ops s).map Moment.operation = ops := by
  induction ops generalizing s with
  | nil => rfl
  | cons op ops ih => rw [history_cons, List.map_cons, ih]

/-- The moment with its states seen through a function. -/
def Moment.mapStates {τ : Type} (f : σ → τ) (m : Moment σ ω α) : Moment τ ω α :=
  ⟨f m.before, m.operation, m.answer, f m.after⟩

/-- Where every moment of a run could have happened to what is seen of its states, the whole run
could have. -/
theorem history_mapStates {τ : Type} {act : ω → σ → Reply σ α} {act' : ω → τ → Reply τ α}
    (f : σ → τ) {ops : List ω} {s : σ}
    (h : ∀ m ∈ history act ops s, (act' m.operation (f m.before)).answer = m.answer ∧
      (act' m.operation (f m.before)).state = f m.after) :
    history act' ops (f s) = (history act ops s).map (Moment.mapStates f) := by
  induction ops generalizing s with
  | nil => rfl
  | cons op ops ih =>
    rw [history_cons, List.forall_mem_cons] at h
    obtain ⟨⟨hAnswer, hState⟩, hRest⟩ := h
    simp only [history_cons, List.map_cons, Moment.mapStates, hAnswer, hState, ih hRest]

end ScriptedDb
