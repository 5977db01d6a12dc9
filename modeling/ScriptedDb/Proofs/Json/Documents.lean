import ScriptedDb.Proofs.Json.Integers
import ScriptedDb.Proofs.Json.Members
import ScriptedDb.Proofs.Json.Printed
import ScriptedDb.Proofs.Json.Structure

/-! Documents are read from every text that writes them. The induction is on the document and gives,
level by level, a reader for what may nest inside. -/

namespace ScriptedDb

namespace Json

variable {room room' : Nat}

/-- Read a member of an object in a document in which arrays and objects nest at most `room` deep. -/
def documentMember (room : Nat) (ms : List (String × Json)) (key : String) (s : List Char) :
    Scanned (List (String × Json)) :=
  match colon s with
  | .error e => .error e
  | .ok s =>
    match document room s with
    | .error e => .error e
    | .ok (value, s) => .ok (insertMember key value ms, s)

theorem document_bracket {s r : List Char} (h : skipBlank s = '[' :: r) :
    document (room + 1) s = (elements (document room) r).map fun (items, s) => (.array items, s) := by
  rw [document, h]
  rfl

theorem document_brace {s r : List Char} (h : skipBlank s = '\x7b' :: r) :
    document (room + 1) s =
      (Json.members (documentMember room) [] r).map fun (ms, s) => (.object ms, s) := by
  rw [document, h]
  rfl

/-- A member is read into the members before it. -/
theorem readsMember_documentMember {m : String × Json} {text : List Char}
    (h : MemberText m.1 (DocumentText room) m.2 text)
    (hValue : ∀ t, DocumentText room m.2 t → Reads (document room) m.2 t) (ms : List (String × Json)) :
    ReadsMember (documentMember room) ms (insertMember m.1 m.2 ms) text := by
  refine readsMember_memberText h hValue fun s s' hColon rest hRead => ?_
  simp [documentMember, hColon, hRead]

/-- An object is read from every text that lists its members. Keys may come more than once, and of members
with one key the last counts. -/
theorem reads_ofMembers {written : List (String × Json)} {text : List Char}
    (h : ObjectText (fun m => MemberText m.1 (DocumentText room) m.2) written text)
    (hValues : ∀ m ∈ written, ∀ t, DocumentText room m.2 t → Reads (document room) m.2 t) :
    Reads (document (room + 1)) (ofMembers written) text := by
  have hTakes : Takes (documentMember room) (fun m => MemberText m.1 (DocumentText room) m.2) []
      written (written.foldl (fun ms m => insertMember m.1 m.2 ms) []) := by
    refine takes_foldl (fun m hm ms t ht => ?_) []
    exact readsMember_documentMember ht (hValues m hm) ms
  refine reads_objectText h hTakes fun s r hSkip rest hMembers => ?_
  rw [document_brace hSkip, hMembers]
  rfl

theorem reads_documentText {d : Json} (hd : IsDocument room d) {text : List Char}
    (hText : DocumentText room d text) : Reads (document room) d text := by
  induction hd generalizing text with
  | @null room =>
    rw [DocumentText] at hText
    rw [hText]
    exact reads_document_null room
  | @bool room b =>
    rw [DocumentText] at hText
    rw [hText]
    exact reads_document_bool room b
  | @integer room i hFits =>
    rw [DocumentText] at hText
    rw [hText]
    exact reads_document_integer room hFits
  | @string room s =>
    rw [DocumentText] at hText
    exact reads_document_string hText room
  | @array room items _ ih =>
    rw [DocumentText] at hText
    have hItems : ArrayText (Reads (document room)) items text :=
      hText.imp fun d hd t ht => ih d hd ht
    refine reads_arrayText hItems fun s r hSkip rest hElements => ?_
    rw [document_bracket hSkip, hElements]
    rfl
  | @object room members hOrdered _ ih =>
    rw [DocumentText] at hText
    obtain ⟨written, hPerm, hObject⟩ := hText
    have hMembers : ofMembers written = object members := by
      rw [ofMembers, foldl_insertMember_of_perm hPerm hOrdered]
    rw [← hMembers]
    exact reads_ofMembers hObject fun m hm t => ih m (hPerm.mem_iff.mp hm)

/-- A text is parsed as the document that it writes, with blanks around it or without. -/
theorem parse_documentText {d : Json} {text : String} (hd : IsDocument nestingLimit d)
    (hText : Padded (DocumentText nestingLimit) d text.toList) : parse text = .ok d :=
  readWhole_of_reads hText fun _ => reads_documentText hd

theorem renderMembers_eq_map (members : List (String × Json)) :
    renderMembers members = members.map fun m => renderString m.1 ++ ':' :: m.2.render := by
  induction members with
  | nil => rfl
  | cons m members ih => rw [renderMembers, ih, List.map_cons]

/-- Every document has a text: it may be printed without blanks. -/
theorem documentText_render {d : Json} (hd : IsDocument room d) : DocumentText room d d.render := by
  induction hd with
  | null => rw [DocumentText]
  | bool b => rw [DocumentText]
  | @integer room i _ =>
    rw [render, Number.render]
    exact documentText_integer i
  | string s => exact documentText_string (stringText_render s)
  | @array room items _ ih =>
    have hItems : ArrayText (DocumentText room) items (array (items.map id)).render :=
      arrayText_render ih
    rw [List.map_id] at hItems
    exact documentText_array hItems
  | @object room members _ _ ih =>
    rw [render, renderMembers_eq_map]
    refine documentText_object (.refl members) (.braces (listed_commaSeparated fun m hm => ?_))
    exact memberText_render m.1 (ih m hm)

theorem sameItems_iff_eq {xs ys : List Json}
    (h : ∀ x ∈ xs, ∀ y ∈ ys, x.same y = true ↔ x = y) : sameItems xs ys = true ↔ xs = ys := by
  induction xs generalizing ys with
  | nil => cases ys <;> simp [sameItems]
  | cons x xs ih =>
    cases ys with
    | nil => simp [sameItems]
    | cons y ys =>
      have hFirst := h x List.mem_cons_self y List.mem_cons_self
      have hOthers := ih fun x hx y hy => h x (List.mem_cons_of_mem _ hx) y (List.mem_cons_of_mem _ hy)
      simp [sameItems, hFirst, hOthers]

theorem sameMembers_iff_eq {ms ns : List (String × Json)}
    (h : ∀ m ∈ ms, ∀ n ∈ ns, m.2.same n.2 = true ↔ m.2 = n.2) :
    sameMembers ms ns = true ↔ ms = ns := by
  induction ms generalizing ns with
  | nil => cases ns <;> simp [sameMembers]
  | cons m ms ih =>
    cases ns with
    | nil => simp [sameMembers]
    | cons n ns =>
      have hFirst := h m List.mem_cons_self n List.mem_cons_self
      have hOthers := ih fun m hm n hn => h m (List.mem_cons_of_mem _ hm) n (List.mem_cons_of_mem _ hn)
      simp [sameMembers, hFirst, hOthers, Prod.ext_iff]

/-- Documents without floating-point numbers compare as the same exactly if they are. -/
theorem same_iff_eq {d d' : Json} (hd : IsDocument room d) (hd' : IsDocument room' d') :
    d.same d' = true ↔ d = d' := by
  induction hd generalizing room' d' with
  | null => cases hd' <;> simp [same]
  | bool b => cases hd' <;> simp [same]
  | integer _ => cases hd' <;> simp [same, Number.same]
  | string s => cases hd' <;> simp [same]
  | array _ ih =>
    cases hd' with
    | array hItems =>
      have hSame := sameItems_iff_eq fun x hx y hy => ih x hx (hItems y hy)
      simpa [same] using hSame
    | null | bool _ | integer _ | string _ | object _ _ => simp [same]
  | object _ _ ih =>
    cases hd' with
    | object _ hMembers =>
      have hSame := sameMembers_iff_eq fun m hm n hn => ih m hm (hMembers n hn)
      simpa [same] using hSame
    | null | bool _ | integer _ | string _ | array _ => simp [same]

end Json

end ScriptedDb
