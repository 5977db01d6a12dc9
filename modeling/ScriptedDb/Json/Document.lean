import ScriptedDb.Number.Binary64

/-! An integer and a floating-point number never equal each other. An object keeps its members in
the order of their keys, so that equality does not depend on the order in which they were written.
-/

namespace ScriptedDb

inductive Json.Number where
  /-- An integer at least `-2 ^ 63` and less than `2 ^ 64`. -/
  | integer (i : Int)
  | float (x : Binary64)

/-- An integer that fits in 64 bits, with a sign or without. -/
def Json.Fits (i : Int) : Prop :=
  -(Nat.pow 2 63 : Int) ≤ i ∧ i < (Nat.pow 2 64 : Int)

instance (i : Int) : Decidable (Json.Fits i) :=
  inferInstanceAs (Decidable (_ ∧ _))

inductive Json where
  | null
  | bool (b : Bool)
  | number (n : Json.Number)
  | string (s : String)
  | array (items : List Json)
  | object (members : List (String × Json))
  deriving Inhabited

namespace Json

/-- Equality of numbers: floating-point numbers are compared as numbers, not as bits. -/
def Number.same : Number → Number → Bool
  | .integer i, .integer j => i == j
  | .float x, .float y => x.eqv y
  | _, _ => false

mutual

def same : Json → Json → Bool
  | .null, .null => true
  | .bool a, .bool b => a == b
  | .number m, .number n => m.same n
  | .string s, .string t => s == t
  | .array xs, .array ys => sameItems xs ys
  | .object ms, .object ns => sameMembers ms ns
  | _, _ => false

def sameItems : List Json → List Json → Bool
  | [], [] => true
  | x :: xs, y :: ys => same x y && sameItems xs ys
  | _, _ => false

def sameMembers : List (String × Json) → List (String × Json) → Bool
  | [], [] => true
  | (k, x) :: ms, (l, y) :: ns => k == l && same x y && sameMembers ms ns
  | _, _ => false

end

/-- Give a key a value among members in the order of their keys, in place of an earlier value. -/
def insertMember (key : String) (value : Json) : List (String × Json) → List (String × Json)
  | [] => [(key, value)]
  | (k, v) :: rest =>
    match compare key k with
    | .lt => (key, value) :: (k, v) :: rest
    | .eq => (key, value) :: rest
    | .gt => (k, v) :: insertMember key value rest

/-- The object that a list of members writes: of members with one key the last counts. -/
def ofMembers (members : List (String × Json)) : Json :=
  .object (members.foldl (fun acc m => insertMember m.1 m.2 acc) [])

end Json

end ScriptedDb
