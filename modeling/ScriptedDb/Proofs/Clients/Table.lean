import ScriptedDb.Clients

/-! A table is seen through `find?` and its counter. Every section changes one table at one
connection string, or the counter. -/

namespace ScriptedDb

namespace ConnectionTable

variable {t : ConnectionTable} {dsn : String} {id : SessionId} {e : Entry} {n : Nat}

theorem lookup_filter_key (p : String → Bool) (entries : List (String × Entry)) (dsn : String) :
    (entries.filter fun e => p e.1).lookup dsn =
      if p dsn then entries.lookup dsn else none := by
  induction entries with
  | nil => simp
  | cons entry entries ih =>
    obtain ⟨key, e⟩ := entry
    by_cases hKey : dsn = key
    · subst hKey
      cases hp : p dsn <;> simp [hp, ih]
    · have hNe : (dsn == key) = false := beq_eq_false_iff_ne.mpr hKey
      cases hp : p key <;> simp [hp, ih, List.lookup_cons, hNe]

theorem find?_put (t : ConnectionTable) (dsn dsn' : String) (entry : Option Entry) :
    (t.put dsn entry).find? dsn' = if dsn' = dsn then entry else t.find? dsn' := by
  have hOthers := lookup_filter_key (· != dsn) t.entries dsn'
  by_cases h : dsn' = dsn
  · subst h
    cases entry with
    | none => simpa [find?, put] using hOthers
    | some e => simp [find?, put]
  · have hNe : (dsn' == dsn) = false := beq_eq_false_iff_ne.mpr h
    rw [if_pos (by simpa using h)] at hOthers
    cases entry with
    | none => simpa [find?, put, h] using hOthers
    | some e => simpa [find?, put, h, List.lookup_cons, hNe] using hOthers

def numbered (n : Nat) : String :=
  s!"sqlmock_db_{n}"

theorem numbered_injective : Function.Injective numbered := by
  intro m n h
  have hDigits : Nat.toDigits 10 m = Nat.toDigits 10 n := by
    have hLists := congrArg String.toList h
    simpa [numbered, Nat.toString_eq_ofList_toDigits] using hLists
  calc m = Nat.ofDigitChars 10 (Nat.toDigits 10 m) 0 := Nat.ofDigitChars_ten_toDigits.symm
    _ = Nat.ofDigitChars 10 (Nat.toDigits 10 n) 0 := by rw [hDigits]
    _ = n := Nat.ofDigitChars_ten_toDigits

theorem freshDsn_eq (t : ConnectionTable) :
    t.freshDsn = (numbered t.nextId.toNat, { t with nextId := t.nextId + 1 }) := rfl

theorem find?_register (t : ConnectionTable) (dsn dsn' : String) (id : SessionId) :
    (t.register dsn id).find? dsn' = if dsn' = dsn then some ⟨id, 0⟩ else t.find? dsn' :=
  t.find?_put dsn dsn' _

@[simp] theorem nextId_attach (t : ConnectionTable) (dsn : String) (id : SessionId) :
    (t.attach dsn id).nextId = t.nextId := by
  unfold attach
  split <;> rfl

theorem find?_attach_of_ne {dsn' : String} (h : dsn' ≠ dsn) (id : SessionId) :
    (t.attach dsn id).find? dsn' = t.find? dsn' := by
  unfold attach
  split <;> rw [find?_put, if_neg h]

/-- Attaching counts one more connection on a session that has the entry, or gets it back. -/
theorem find?_attach (h : ∀ e, t.find? dsn = some e → e.session = id) :
    (t.attach dsn id).find? dsn = some ⟨id, t.openCount dsn + 1⟩ := by
  unfold attach openCount
  cases hFind : t.find? dsn with
  | none => simp [find?_put]
  | some e =>
    obtain rfl := h e hFind
    simp [find?_put]

/-- Attaching keeps the session of an entry; what it registers again is its own session. -/
theorem session_of_find?_attach (h : (t.attach dsn id).find? dsn = some e) :
    e.session = id ∨ ∃ e', t.find? dsn = some e' ∧ e'.session = e.session := by
  unfold attach at h
  cases hFind : t.find? dsn with
  | none =>
    rw [hFind, find?_put, if_pos rfl, Option.some.injEq] at h
    exact .inl (h ▸ rfl)
  | some e' =>
    rw [hFind, find?_put, if_pos rfl, Option.some.injEq] at h
    exact .inr ⟨e', rfl, h ▸ rfl⟩

/-- Opening does what attaching does to the session that is registered. -/
theorem openOne_eq (h : t.find? dsn = some e) :
    t.openOne dsn = some (⟨e.session, e.opened + 1⟩, t.attach dsn e.session) := by
  simp [openOne, attach, h]

theorem find?_release_of_ne {dsn' : String} (h : dsn' ≠ dsn) :
    (t.release dsn).2.find? dsn' = t.find? dsn' := by
  unfold release
  split
  · rfl
  · split <;> rw [find?_put, if_neg h]

/-- Releasing counts one connection less, and the last one takes the entry with it. -/
theorem find?_release (h : t.find? dsn = some ⟨id, n + 1⟩) :
    (t.release dsn).2.find? dsn = if n = 0 then none else some ⟨id, n⟩ := by
  unfold release
  cases n <;> simp [h, find?_put]

theorem session_of_find?_release (h : (t.release dsn).2.find? dsn = some e) :
    ∃ e', t.find? dsn = some e' ∧ e'.session = e.session := by
  unfold release at h
  cases hFind : t.find? dsn with
  | none =>
    simp only [hFind] at h
    cases h
  | some e' =>
    simp only [hFind] at h
    split at h <;> rw [find?_put, if_pos rfl] at h
    · cases h
    · cases h
      exact ⟨e', rfl, rfl⟩

@[simp] theorem nextId_release (t : ConnectionTable) (dsn : String) :
    (t.release dsn).2.nextId = t.nextId := by
  unfold release
  split
  · rfl
  · split <;> rfl

end ConnectionTable

namespace World

variable {w : World} {table : TableId}

theorem table_setTable (h : table < w.tables.length) (t : ConnectionTable) (table' : TableId) :
    (w.setTable table t).table table' = if table' = table then t else w.table table' := by
  by_cases hSame : table' = table
  · subst hSame
    simp [World.table, setTable, List.getElem?_set_self h]
  · simp [World.table, setTable, hSame, List.getElem?_set_ne (Ne.symm hSame)]

/-- A session that is created without interruption is named and registered. -/
theorem newSession_eq (w : World) (table : TableId) (config : Config) :
    w.newSession table config =
      (w.nameSession table).2.registerSession table (w.nameSession table).1 config := by
  by_cases h : table < w.tables.length
  · simp [newSession, nameSession, registerSession, addSession, setTable, World.table, h]
  · have hNone := List.getElem?_eq_none_iff.mpr (Nat.le_of_not_lt h)
    simp [newSession, nameSession, registerSession, addSession, setTable, World.table, hNone,
      List.set_eq_of_length_le (Nat.le_of_not_lt h)]

/-- A table that is added is as empty as one that is not there. -/
theorem table_addTable (w : World) (table : TableId) : w.addTable.2.table table = w.table table := by
  simp only [World.table, addTable]
  rcases Nat.lt_trichotomy table w.tables.length with h | h | h
  · rw [List.getElem?_append_left h]
  · rw [h, List.getElem?_concat_length, List.getElem?_eq_none (Nat.le_refl _)]
    rfl
  · rw [List.getElem?_eq_none (List.length_append ▸ h), List.getElem?_eq_none (Nat.le_of_lt h)]

end World

namespace Clients

/-- A creation that no other client interrupts gets the connection that `World.openNew` opens, and
brings about the same world. -/
theorem name_register_attach (c : Clients) {table : TableId} (h : table < c.world.tables.length)
    (config : Config) :
    ∃ named registered attached, c.step (.name table config) = some named ∧
      named.step (.register c.creations.length) = some registered ∧
      registered.step (.attach c.creations.length) = some attached ∧
      attached.world = (c.world.openNew table config).2 ∧
      attached.handles = c.handles ++ [{ connection := (c.world.openNew table config).1 }] := by
  have hOpen : c.world.openNew table config =
      (c.world.newSession table config).2.attach table (c.world.newSession table config).1 := rfl
  rw [hOpen, World.newSession_eq]
  cases hNamed : c.world.nameSession table with
  | mk dsn named =>
  cases hRegistered : named.registerSession table dsn config with
  | mk id registered =>
  let begun : Creation := ⟨table, dsn, config, none, false⟩
  let made : Creation := ⟨table, dsn, config, some id, false⟩
  have hName : c.step (.name table config) = some ⟨named, c.creations ++ [begun], c.handles⟩ := by
    simp only [step, if_pos h, hNamed]
    rfl
  have hRegister : step ⟨named, c.creations ++ [begun], c.handles⟩ (.register c.creations.length) =
      some ⟨registered, c.creations ++ [made], c.handles⟩ := by
    simp [step, begun, made, hRegistered]
  have hAttach : step ⟨registered, c.creations ++ [made], c.handles⟩ (.attach c.creations.length) =
      some ⟨(registered.attach table id).2, c.creations ++ [{ made with attached := true }],
        c.handles ++ [{ connection := (registered.attach table id).1 }]⟩ := by
    simp [step, made]
  exact ⟨_, _, _, hName, hRegister, hAttach, rfl, rfl⟩

end Clients

end ScriptedDb
