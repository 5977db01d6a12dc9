import ScriptedDb.Json.Scan

/-! Reading JSON documents. `elements` and `members` take a reader for their items, so that
documents and typed records share them. -/

namespace ScriptedDb.Json

variable {α σ : Type}

/-- Read up to the next item of an array, or past the bracket that ends it. The first item has no
comma before it. -/
def nextItem (first : Bool) (s : List Char) : Scanned Bool :=
  match skipBlank s with
  | [] => .error ⟨.endInList, 0⟩
  | c :: r =>
    if c = ']' then .ok (false, r)
    else if first then .ok (true, c :: r)
    else if c = ',' then
      match skipBlank r with
      | [] => .error ⟨.endInValue, 0⟩
      | d :: r => if d = ']' then .error (.at .trailingComma (d :: r)) else .ok (true, d :: r)
    else .error (.at .expectedListComma (c :: r))

/-- Read items until the array ends. Every item takes a character at least, so a bound of the
length of the text is never reached. -/
def elementsLoop (item : List Char → Scanned α) :
    (bound : Nat) → (first : Bool) → List Char → Scanned (List α)
  | 0, _, _ => .error ⟨.endInList, 0⟩
  | bound + 1, first, s =>
    match nextItem first s with
    | .error e => .error e
    | .ok (false, rest) => .ok ([], rest)
    | .ok (true, s) =>
      match item s with
      | .error e => .error e
      | .ok (x, s) =>
        match elementsLoop item bound false s with
        | .error e => .error e
        | .ok (xs, rest) => .ok (x :: xs, rest)

def elements (item : List Char → Scanned α) (s : List Char) : Scanned (List α) :=
  elementsLoop item (s.length + 1) true s

/-- Read the next key of an object, or past the brace that ends it. The first key has no comma
before it. -/
def nextKey (first : Bool) (s : List Char) : Scanned (Option String) :=
  let key (s : List Char) : Scanned (Option String) :=
    match readString s with
    | .error e => .error e
    | .ok (cs, rest) => .ok (some (String.ofList cs), rest)
  match skipBlank s with
  | [] => .error ⟨.endInObject, 0⟩
  | c :: r =>
    if c = '\x7d' then .ok (none, r)
    else if first then
      if c = '"' then key r else .error (.at .keyNotString (c :: r))
    else if c = ',' then
      match skipBlank r with
      | [] => .error ⟨.endInValue, 0⟩
      | d :: r =>
        if d = '"' then key r
        else if d = '\x7d' then .error (.at .trailingComma (d :: r))
        else .error (.at .keyNotString (d :: r))
    else .error (.at .expectedObjectComma (c :: r))

def colon (s : List Char) : Except Stop (List Char) :=
  match skipBlank s with
  | [] => .error ⟨.endInObject, 0⟩
  | c :: r => if c = ':' then .ok r else .error (.at .expectedColon (c :: r))

/-- Read members until the object ends, carrying along what they have told so far. A member is
given its key and the text after it. -/
def membersLoop (member : σ → String → List Char → Scanned σ) :
    (bound : Nat) → (first : Bool) → σ → List Char → Scanned σ
  | 0, _, _, _ => .error ⟨.endInObject, 0⟩
  | bound + 1, first, st, s =>
    match nextKey first s with
    | .error e => .error e
    | .ok (none, rest) => .ok (st, rest)
    | .ok (some key, s) =>
      match member st key s with
      | .error e => .error e
      | .ok (st, s) => membersLoop member bound false st s

def members (member : σ → String → List Char → Scanned σ) (start : σ) (s : List Char) :
    Scanned σ :=
  membersLoop member (s.length + 1) true start s

def constant (rest : List Char) (value : α) (s : List Char) : Scanned α :=
  match word rest s with
  | .error e => .error e
  | .ok s => .ok (value, s)

/-- Read a document in which arrays and objects nest at most `room` deep. -/
def document (room : Nat) (s : List Char) : Scanned Json :=
  match skipBlank s with
  | [] => .error ⟨.endInValue, 0⟩
  | c :: r =>
    if c = 'n' then constant ['u', 'l', 'l'] .null r
    else if c = 't' then constant ['r', 'u', 'e'] (.bool true) r
    else if c = 'f' then constant ['a', 'l', 's', 'e'] (.bool false) r
    else if c = '-' then (readNumber true r).map fun (n, s) => (.number n, s)
    else if Numeral.isDigit c then (readNumber false (c :: r)).map fun (n, s) => (.number n, s)
    else if c = '"' then (readString r).map fun (cs, s) => (.string (String.ofList cs), s)
    else if c = '[' then
      match room with
      | 0 => .error (.at .recursionLimit (c :: r))
      | room + 1 => (elements (document room) r).map fun (items, s) => (.array items, s)
    else if c = '\x7b' then
      match room with
      | 0 => .error (.at .recursionLimit (c :: r))
      | room + 1 =>
        let member (ms : List (String × Json)) (key : String) (s : List Char) :
            Scanned (List (String × Json)) :=
          match colon s with
          | .error e => .error e
          | .ok s =>
            match document room s with
            | .error e => .error e
            | .ok (value, s) => .ok (insertMember key value ms, s)
        (members member [] r).map fun (ms, s) => (.object ms, s)
    else .error (.at .expectedValue (c :: r))

def nestingLimit : Nat := 127

/-- Read a whole text with a reader: nothing but blanks may be left. -/
def readWhole (reader : List Char → Scanned α) (text : String) : Except Failure α :=
  let s := text.toList
  match reader s with
  | .error stop => .error (stop.locate s)
  | .ok (x, rest) =>
    match skipBlank rest with
    | [] => .ok x
    | c :: r => .error ((Stop.at .trailingCharacters (c :: r)).locate s)

def parse (text : String) : Except Failure Json :=
  readWhole (document nestingLimit) text

end ScriptedDb.Json
