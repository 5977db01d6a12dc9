/-! A session stays in its table until the last connection opened on it is closed. Every operation
here happens at once. -/

namespace ScriptedDb

abbrev SessionId := Nat

/-- A session that can be opened, with the number of its open connections. The number is a `Nat`. It
goes up by one with each opening, so a machine word would come round only after `2 ^ 64` openings
without a close, which no run gets to make. The number of the next string keeps its 64 bits, since
two sessions would share a string once it came round. -/
structure ConnectionTable.Entry where
  session : SessionId
  opened : Nat
  deriving DecidableEq, Repr

/-- A table of sessions by connection string, and the number of the next fresh string. -/
structure ConnectionTable where
  entries : List (String × ConnectionTable.Entry) := []
  nextId : UInt64 := 0

namespace ConnectionTable

def find? (t : ConnectionTable) (dsn : String) : Option Entry :=
  t.entries.lookup dsn

def put (t : ConnectionTable) (dsn : String) (entry : Option Entry) : ConnectionTable :=
  let others := t.entries.filter fun e => e.1 != dsn
  { t with entries := entry.toList.map (dsn, ·) ++ others }

def isRegistered (t : ConnectionTable) (dsn : String) : Bool :=
  (t.find? dsn).isSome

def openCount (t : ConnectionTable) (dsn : String) : Nat :=
  (t.find? dsn).elim 0 Entry.opened

/-- A connection string that this table has not handed out before. -/
def freshDsn (t : ConnectionTable) : String × ConnectionTable :=
  (s!"sqlmock_db_{t.nextId.toNat}", { t with nextId := t.nextId + 1 })

def register (t : ConnectionTable) (dsn : String) (session : SessionId) : ConnectionTable :=
  t.put dsn (some ⟨session, 0⟩)

/-- Count one more connection on a session, registering it again if it is gone. -/
def attach (t : ConnectionTable) (dsn : String) (session : SessionId) : ConnectionTable :=
  match t.find? dsn with
  | some e => t.put dsn (some { e with opened := e.opened + 1 })
  | none => t.put dsn (some ⟨session, 1⟩)

def openOne (t : ConnectionTable) (dsn : String) : Option (Entry × ConnectionTable) :=
  (t.find? dsn).map fun e =>
    let e := { e with opened := e.opened + 1 }
    (e, t.put dsn (some e))

/-- Count one connection less. The last one takes the entry with it; whether it did is told. -/
def release (t : ConnectionTable) (dsn : String) : Bool × ConnectionTable :=
  match t.find? dsn with
  | none => (false, t)
  | some e =>
    if e.opened ≤ 1 then (true, t.put dsn none)
    else (false, t.put dsn (some { e with opened := e.opened - 1 }))

end ConnectionTable

end ScriptedDb
