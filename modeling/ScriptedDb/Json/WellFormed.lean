import ScriptedDb.Json.DocumentLayout

/-! Documents as texts can write them: no NaN, no integer past 64 bits, no nesting beyond the limit,
members in the order of their keys. -/

namespace ScriptedDb.Json

/-- A number that a text can write. -/
def Number.WellFormed : Number → Prop
  | .integer i => Fits i
  | .float x => x.isNaN = false

/-- A document that a text can write if arrays and objects may nest at most `room` deep. -/
inductive WellFormed : (room : Nat) → Json → Prop where
  | null {room : Nat} : WellFormed room .null
  | bool {room : Nat} (b : Bool) : WellFormed room (.bool b)
  | number {room : Nat} {n : Number} : n.WellFormed → WellFormed room (.number n)
  | string {room : Nat} (s : String) : WellFormed room (.string s)
  | array {room : Nat} {items : List Json} : (∀ d ∈ items, WellFormed room d) →
      WellFormed (room + 1) (.array items)
  | object {room : Nat} {members : List (String × Json)} : Ordered members →
      (∀ m ∈ members, WellFormed room m.2) → WellFormed (room + 1) (.object members)

def isComposite : Json → Bool
  | .array _ | .object _ => true
  | _ => false

def Number.isInteger : Number → Bool
  | .integer _ => true
  | .float _ => false

mutual

def numbers : Json → List Number
  | .number n => [n]
  | .array items => itemNumbers items
  | .object members => memberNumbers members
  | _ => []

def itemNumbers : List Json → List Number
  | [] => []
  | item :: rest => numbers item ++ itemNumbers rest

def memberNumbers : List (String × Json) → List Number
  | [] => []
  | (_, value) :: rest => numbers value ++ memberNumbers rest

end

def Integral (d : Json) : Prop :=
  ∀ n ∈ d.numbers, n.isInteger = true

instance (d : Json) : Decidable d.Integral :=
  List.decidableBAll (fun n : Number => n.isInteger = true) d.numbers

theorem itemNumbers_eq_flatMap (items : List Json) : itemNumbers items = items.flatMap numbers := by
  induction items with
  | nil => rfl
  | cons item rest ih => rw [itemNumbers, ih, List.flatMap_cons]

theorem memberNumbers_eq_flatMap (members : List (String × Json)) :
    memberNumbers members = members.flatMap fun m => m.2.numbers := by
  induction members with
  | nil => rfl
  | cons m rest ih => rw [memberNumbers, ih, List.flatMap_cons]

theorem Integral.of_mem_items {items : List Json} (h : (array items).Integral) {d : Json}
    (hd : d ∈ items) : d.Integral := by
  intro n hn
  apply h
  rw [numbers, itemNumbers_eq_flatMap]
  exact List.mem_flatMap.mpr ⟨d, hd, hn⟩

theorem Integral.of_mem_members {members : List (String × Json)} (h : (object members).Integral)
    {m : String × Json} (hm : m ∈ members) : m.2.Integral := by
  intro n hn
  apply h
  rw [numbers, memberNumbers_eq_flatMap]
  exact List.mem_flatMap.mpr ⟨m, hm, hn⟩

/-- When its numbers are integers, what a text can write is a document without floating-point numbers. -/
theorem WellFormed.isDocument {room : Nat} {d : Json} (h : WellFormed room d) (hInt : d.Integral) :
    IsDocument room d := by
  induction h with
  | null => exact .null
  | bool b => exact .bool b
  | @number room n hn =>
    cases n with
    | integer i => exact .integer hn
    | float x => cases hInt _ List.mem_cons_self
  | string s => exact .string s
  | array _ ih =>
    apply IsDocument.array
    intro d hd
    exact ih d hd (hInt.of_mem_items hd)
  | object hOrdered _ ih =>
    apply IsDocument.object hOrdered
    intro m hm
    exact ih m hm (hInt.of_mem_members hm)

end ScriptedDb.Json
