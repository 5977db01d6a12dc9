import Mathlib.Tactic.SplitIfs
import ScriptedDb.Proofs.Json.Documents
import ScriptedDb.Proofs.Json.Numbers

/-! What parsing gives is well formed. The induction is on the levels that may still nest: what
holds of every document with fewer levels holds of the items. -/

namespace ScriptedDb

namespace Json

variable {α β σ : Type} {room : Nat} {s rest : List Char}

/-- What a reader gives through a function comes from what the reader itself gives. -/
theorem exists_of_map_eq_ok {read : Scanned α} {f : α → β} {y : β}
    (h : (read.map fun (x, s) => (f x, s)) = .ok (y, rest)) : ∃ x, read = .ok (x, rest) ∧ y = f x := by
  cases read with
  | error e => cases h
  | ok result =>
    cases h
    exact ⟨result.1, rfl, rfl⟩

/-- What holds of all that the reader of items gives holds of the items of the array. -/
theorem forall_of_elementsLoop {item : List Char → Scanned α} {P : α → Prop}
    (hItem : ∀ s x rest, item s = .ok (x, rest) → P x) {bound : Nat} {first : Bool} {xs : List α}
    (h : elementsLoop item bound first s = .ok (xs, rest)) : ∀ x ∈ xs, P x := by
  induction bound generalizing first s xs with
  | zero => cases h
  | succ bound ih =>
    rw [elementsLoop] at h
    split at h
    · cases h
    · cases h
      exact List.forall_mem_nil P
    · split at h
      · cases h
      · next x s' hx =>
        split at h
        · cases h
        · next xs' rest' hxs =>
          cases h
          exact List.forall_mem_cons.mpr ⟨hItem _ _ _ hx, ih hxs⟩

/-- What every member keeps holds when the object has been read. -/
theorem invariant_of_membersLoop {member : σ → String → List Char → Scanned σ} {I : σ → Prop}
    (hMember : ∀ st key s st' rest, I st → member st key s = .ok (st', rest) → I st') {bound : Nat}
    {first : Bool} {start finish : σ} (hStart : I start)
    (h : membersLoop member bound first start s = .ok (finish, rest)) : I finish := by
  induction bound generalizing first start s with
  | zero => cases h
  | succ bound ih =>
    rw [membersLoop] at h
    split at h
    · cases h
    · cases h
      exact hStart
    · split at h
      · cases h
      · next st s' hRead => exact ih (hMember _ _ _ _ _ hStart hRead) h

theorem eq_of_constant {letters : List Char} {x y : α} (h : constant letters x s = .ok (y, rest)) :
    y = x := by
  rw [constant] at h
  split at h
  · cases h
  · cases h
    rfl

/-- What is read for a document, with what is left to be read inside it. -/
inductive ReadAs (rest : List Char) : (room : Nat) → Json → Prop where
  | null {room : Nat} : ReadAs rest room .null
  | bool {room : Nat} (b : Bool) : ReadAs rest room (.bool b)
  | number {room : Nat} {n : Number} : n.WellFormed → ReadAs rest room (.number n)
  | string {room : Nat} (t : String) : ReadAs rest room (.string t)
  | array {room : Nat} {s : List Char} {items : List Json} :
      elements (document room) s = .ok (items, rest) → ReadAs rest (room + 1) (.array items)
  | object {room : Nat} {s : List Char} {ms : List (String × Json)} :
      members (documentMember room) [] s = .ok (ms, rest) → ReadAs rest (room + 1) (.object ms)

theorem readAs_of_document {d : Json} (h : document room s = .ok (d, rest)) : ReadAs rest room d := by
  rw [document.eq_def] at h
  split at h
  · cases h
  · split_ifs at h
    · rw [eq_of_constant h]
      exact .null
    · rw [eq_of_constant h]
      exact .bool true
    · rw [eq_of_constant h]
      exact .bool false
    · obtain ⟨n, hRead, rfl⟩ := exists_of_map_eq_ok h
      exact .number (wellFormed_readNumber hRead)
    · obtain ⟨n, hRead, rfl⟩ := exists_of_map_eq_ok h
      exact .number (wellFormed_readNumber hRead)
    · obtain ⟨cs, _, rfl⟩ := exists_of_map_eq_ok (f := fun cs => Json.string (String.ofList cs)) h
      exact .string (String.ofList cs)
    · split at h
      · cases h
      · obtain ⟨items, hRead, rfl⟩ := exists_of_map_eq_ok h
        exact .array hRead
    · split at h
      · cases h
      · obtain ⟨ms, hRead, rfl⟩ := exists_of_map_eq_ok h
        exact .object hRead

/-- A member that is read is inserted among the members before it. -/
theorem insertMember_of_documentMember {ms ms' : List (String × Json)} {key : String}
    (h : documentMember room ms key s = .ok (ms', rest)) :
    ∃ s' value, document room s' = .ok (value, rest) ∧ ms' = insertMember key value ms := by
  rw [documentMember] at h
  split at h
  · cases h
  · split at h
    · cases h
    · next value _ hRead =>
      cases h
      exact ⟨_, value, hRead, rfl⟩

theorem wellFormed_of_document {d : Json} (h : document room s = .ok (d, rest)) :
    WellFormed room d := by
  -- The induction is on the levels, since the items are known only when they have been read.
  induction room using Nat.strongRecOn generalizing s rest d with
  | ind room ih =>
    cases readAs_of_document h with
    | null => exact .null
    | bool b => exact .bool b
    | number hNumber => exact .number hNumber
    | string t => exact .string t
    | @array room _ items hRead =>
      have hItems : ∀ item ∈ items, WellFormed room item :=
        forall_of_elementsLoop (fun _ _ _ hItem => ih room (Nat.lt_succ_self room) hItem) hRead
      exact .array hItems
    | @object room _ ms hRead =>
      -- A member replaces an earlier one with its key, so both properties are kept member by member.
      have hMembers : Ordered ms ∧ ∀ m ∈ ms, WellFormed room m.2 := by
        apply invariant_of_membersLoop (I := fun ms => Ordered ms ∧ ∀ m ∈ ms, WellFormed room m.2) ?_
          ⟨ordered_nil, List.forall_mem_nil _⟩ hRead
        rintro ms key s ms' rest ⟨hOrdered, hValues⟩ hMember
        obtain ⟨s', value, hValue, rfl⟩ := insertMember_of_documentMember hMember
        apply And.intro (hOrdered.insertMember key value)
        intro m hm
        rcases mem_insertMember hm with rfl | hOld
        · exact ih room (Nat.lt_succ_self room) hValue
        · exact hValues m hOld
      exact .object hMembers.1 hMembers.2

theorem wellFormed_of_parse {text : String} {d : Json} (h : parse text = .ok d) :
    WellFormed nestingLimit d := by
  rw [parse, readWhole] at h
  split at h
  · cases h
  · next d' rest hRead =>
    split at h
    · cases h
      exact wellFormed_of_document hRead
    · cases h

/-- A document that comes from a text and has no floating-point numbers comes back from the text that is
printed for it. -/
theorem parse_text {text : String} {d : Json} (h : parse text = .ok d) (hInt : d.Integral) :
    parse d.text = .ok d := by
  have hDocument := (wellFormed_of_parse h).isDocument hInt
  apply parse_documentText hDocument
  rw [Json.text, String.toList_ofList]
  exact padded_of_written (documentText_render hDocument)

end Json

end ScriptedDb
