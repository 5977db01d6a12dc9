import ScriptedDb.Json.Ignored

/-! Reading JSON values of a known type. Each reader skips blanks first, and names a value of
another type in its failure. -/

namespace ScriptedDb.Json

variable {α : Type}

/-- The failure for the value that begins here, where `expected` was wanted. -/
def wrongType (expected : String) (s : List Char) : Stop :=
  let found (scanned : Scanned Found) : Stop :=
    match scanned with
    | .error stop => stop
    | .ok (f, rest) => .before (.wrongType f expected) rest
  let number (scanned : Scanned Number) : Stop :=
    found (scanned.map fun (n, rest) =>
      (match n with | .integer i => .integer i | .float x => .float x, rest))
  match s with
  | [] => ⟨.endInValue, 0⟩
  | c :: r =>
    if c = 'n' then found (constant ['u', 'l', 'l'] .null r)
    else if c = 't' then found (constant ['r', 'u', 'e'] (.bool true) r)
    else if c = 'f' then found (constant ['a', 'l', 's', 'e'] (.bool false) r)
    else if c = '-' then number (readNumber true r)
    else if Numeral.isDigit c then number (readNumber false s)
    else if c = '"' then
      found ((readString r).map fun (cs, rest) => (.string (String.ofList cs), rest))
    else if c = '[' then .before (.wrongType .sequence expected) s
    else if c = '\x7b' then .before (.wrongType .map expected) s
    else .at .expectedValue s

def readText (expected : String) (s : List Char) : Scanned String :=
  match skipBlank s with
  | [] => .error ⟨.endInValue, 0⟩
  | c :: r =>
    if c = '"' then (readString r).map fun (cs, rest) => (String.ofList cs, rest)
    else .error (wrongType expected (c :: r))

def readArray (item : List Char → Scanned α) (s : List Char) : Scanned (List α) :=
  match skipBlank s with
  | [] => .error ⟨.endInValue, 0⟩
  | c :: r => if c = '[' then elements item r else .error (wrongType "a sequence" (c :: r))

/-- Read a number, or fail as for another type. -/
def readAnyNumber (expected : String) (s : List Char) : Scanned Number :=
  match skipBlank s with
  | [] => .error ⟨.endInValue, 0⟩
  | c :: r =>
    if c = '-' then readNumber true r
    else if Numeral.isDigit c then readNumber false (c :: r)
    else .error (wrongType expected (c :: r))

def readInteger (expected : String) (low high : Int) (s : List Char) : Scanned Int :=
  match readAnyNumber expected s with
  | .error e => .error e
  | .ok (.integer i, rest) =>
    if low ≤ i ∧ i ≤ high then .ok (i, rest)
    else .error (.before (.wrongValue (.integer i) expected) rest)
  | .ok (.float x, rest) => .error (.before (.wrongType (.float x) expected) rest)

/-- Read a floating-point number. Integers are rounded to one. -/
def readFloat (s : List Char) : Scanned Binary64 :=
  (readAnyNumber "f64" s).map fun (n, rest) =>
    (match n with | .integer i => .ofInt i | .float x => x, rest)

def readBool (s : List Char) : Scanned Bool :=
  match skipBlank s with
  | [] => .error ⟨.endInValue, 0⟩
  | c :: r =>
    if c = 't' then constant ['r', 'u', 'e'] true r
    else if c = 'f' then constant ['a', 'l', 's', 'e'] false r
    else .error (wrongType "a boolean" (c :: r))

def readNull (s : List Char) : Scanned Unit :=
  match skipBlank s with
  | [] => .error ⟨.endInValue, 0⟩
  | c :: r =>
    if c = 'n' then constant ['u', 'l', 'l'] () r else .error (wrongType "unit" (c :: r))

/-- Stop for a key that came before: at the colon, or past the brace that stands in its place. -/
def duplicateField (key : String) (s : List Char) : Stop :=
  match skipBlank s with
  | [] => ⟨.duplicateField key, 0⟩
  | c :: r => .before (.duplicateField key) (if c = '\x7d' then r else c :: r)

/-- Read the value of a field that may occur once. -/
def readField (key : String) (present : Bool) (value : List Char → Scanned α) (s : List Char) :
    Scanned α :=
  if present then .error (duplicateField key s)
  else
    match colon s with
    | .error e => .error e
    | .ok s => value s

def skipField (s : List Char) : Except Stop (List Char) :=
  match colon s with
  | .error e => .error e
  | .ok s => skipValue s

def closeArray (s : List Char) : Except Stop (List Char) :=
  match skipBlank s with
  | [] => .error ⟨.endInList, 0⟩
  | c :: r =>
    if c = ']' then .ok r
    else if c = ',' then
      match skipBlank r with
      | [] => .error ⟨.trailingCharacters, 0⟩
      | d :: r =>
        .error (.at (if d = ']' then .trailingComma else .trailingCharacters) (d :: r))
    else .error (.at .trailingCharacters (c :: r))

end ScriptedDb.Json
