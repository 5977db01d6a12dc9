import ScriptedDb.Json.Printer
import ScriptedDb.Json.Spelling

/-! How documents without floating-point numbers are laid out as JSON text. An object stands for the
map from its keys to their values, and a text may give its members in any order. -/

namespace ScriptedDb.Json

/-- Members in the order of their keys, each key once. -/
def Ordered (members : List (String × Json)) : Prop :=
  members.Pairwise fun m n => compare m.1 n.1 = .lt

instance (members : List (String × Json)) : Decidable (Ordered members) :=
  inferInstanceAs (Decidable (members.Pairwise _))

/-- A document without floating-point numbers, in which arrays and objects nest at most `room` deep. -/
inductive IsDocument : (room : Nat) → Json → Prop where
  | null {room : Nat} : IsDocument room .null
  | bool {room : Nat} (b : Bool) : IsDocument room (.bool b)
  | integer {room : Nat} {i : Int} : Fits i → IsDocument room (.number (.integer i))
  | string {room : Nat} (s : String) : IsDocument room (.string s)
  | array {room : Nat} {items : List Json} : (∀ d ∈ items, IsDocument room d) →
      IsDocument (room + 1) (.array items)
  | object {room : Nat} {members : List (String × Json)} : Ordered members →
      (∀ m ∈ members, IsDocument room m.2) → IsDocument (room + 1) (.object members)

/-- A way to write a document in which arrays and objects nest at most `room` deep. -/
def DocumentText : (room : Nat) → Json → List Char → Prop
  | _, .null, text => text = null.render
  | _, .bool b, text => text = (bool b).render
  | _, .number (.integer i), text => text = renderInt i
  | _, .string s, text => StringText s text
  | room + 1, .array items, text => ArrayText (DocumentText room) items text
  | room + 1, .object members, text => ∃ written, written.Perm members ∧
      ObjectText (fun m => MemberText m.1 (DocumentText room) m.2) written text
  | _, _, _ => False

variable {room : Nat}

theorem documentText_integer (i : Int) : DocumentText room (.number (.integer i)) (renderInt i) := by
  rw [DocumentText]

theorem documentText_string {s : String} {text : List Char} (h : StringText s text) :
    DocumentText room (.string s) text := by
  rwa [DocumentText]

theorem documentText_array {items : List Json} {text : List Char}
    (h : ArrayText (DocumentText room) items text) : DocumentText (room + 1) (.array items) text := by
  rwa [DocumentText]

/-- The members of an object may be written in any order. -/
theorem documentText_object {members written : List (String × Json)} {text : List Char}
    (hPerm : written.Perm members)
    (h : ObjectText (fun m => MemberText m.1 (DocumentText room) m.2) written text) :
    DocumentText (room + 1) (.object members) text := by
  rw [DocumentText]
  exact ⟨written, hPerm, h⟩

end ScriptedDb.Json
