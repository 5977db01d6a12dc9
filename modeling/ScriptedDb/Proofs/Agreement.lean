import ScriptedDb.Proofs.Json.Documents
import ScriptedDb.Value.Agreement

namespace ScriptedDb

namespace Value

open Json (DocumentText IsDocument MemberText ObjectText Padded StringText)

variable {d d' : Json} {x y : String}

/-- Texts are compared by the documents that they are parsed as. -/
theorem jsonAgrees_of_parse (hx : Json.parse x = .ok d) (hy : Json.parse y = .ok d') :
    jsonAgrees x y = .ok (d.same d') := by
  rw [jsonAgrees, hx]
  simp only [hy]

theorem jsonAgrees_documentText (hd : IsDocument Json.nestingLimit d)
    (hd' : IsDocument Json.nestingLimit d')
    (hx : Padded (DocumentText Json.nestingLimit) d x.toList)
    (hy : Padded (DocumentText Json.nestingLimit) d' y.toList) :
    jsonAgrees x y = .ok (d.same d') :=
  jsonAgrees_of_parse (Json.parse_documentText hd hx) (Json.parse_documentText hd' hy)

/-- A JSON value agrees with another one, and with a text, exactly if both write the same document. The
documents are those without floating-point numbers in which arrays and objects nest at most 127 deep, and
objects are compared as maps, their members being kept in the order of their keys. -/
theorem json_agrees_iff_same_document (hd : IsDocument 127 d) (hd' : IsDocument 127 d')
    (hx : Padded (DocumentText 127) d x.toList) (hy : Padded (DocumentText 127) d' y.toList) :
    ∃ same : Bool, (same = true ↔ d = d') ∧ agrees (.json x) (.json y) = .ok same ∧
      agrees (.json x) (.text y) = .ok same ∧ agrees (.text x) (.json y) = .ok same := by
  have hForward : jsonAgrees x y = .ok (d.same d') := jsonAgrees_documentText hd hd' hx hy
  have hBackward : jsonAgrees y x = .ok (d.same d') := by
    have hComm : d'.same d = d.same d' := by
      rw [Bool.eq_iff_iff, Json.same_iff_eq hd' hd, Json.same_iff_eq hd hd', eq_comm]
    rw [← hComm]
    exact jsonAgrees_documentText hd' hd hy hx
  refine ⟨d.same d', Json.same_iff_eq hd hd', ?_, ?_, ?_⟩
  · simp only [agrees, agreement, hForward]
  · simp only [agrees, agreement, hForward]
  · simp only [agrees, agreement, hBackward]

/-- Another order of members, blanks, escapes and a surrogate pair make no difference; a missing member
does. -/
theorem json_agrees_iff_same_document_spelled :
    agrees (.json "\x7b\"a\":[-1,\"😀\"],\"b\":null\x7d")
        (.text " \x7b \"b\" : null ,\t\"\\u0061\" : [ -1 , \"\\ud83d\\ude00\" ] \x7d\n") = .ok true ∧
      agrees (.text "\x7b\"a\":[-1,\"😀\"],\"b\":null\x7d") (.json "\x7b\"b\":null\x7d") = .ok false := by
  let items : List Json := [.number (.integer (-1)), .string "😀"]
  let d : Json := .object [("a", .array items), ("b", .null)]
  let short : Json := .object [("b", .null)]
  have hNone : ∀ m ∈ ([] : List (String × Json)), IsDocument 126 m.2 := List.forall_mem_nil _
  have hItems : IsDocument 126 (.array items) :=
    .array (List.forall_mem_cons.mpr ⟨.integer (by decide), List.forall_mem_singleton.mpr (.string "😀")⟩)
  have hShort : IsDocument 127 short :=
    .object (by decide) (List.forall_mem_cons.mpr ⟨.null, hNone⟩)
  have hd : IsDocument 127 d :=
    .object (by decide) (List.forall_mem_cons.mpr ⟨hItems, List.forall_mem_cons.mpr ⟨.null, hNone⟩⟩)
  have hSpace : Json.Blanks [' '] := by decide
  have hTab : Json.Blanks ['\t'] := by decide
  have hLine : Json.Blanks ['\n'] := by decide
  have hName : StringText "a" "\"\\u0061\"".toList :=
    StringText.quoted (s := "a") (.cons (.unit
      (.digits (a := '0') (b := '0') (c := '6') (d := '1') rfl rfl rfl rfl)) .nil)
  have hFace : StringText "😀" "\"\\ud83d\\ude00\"".toList :=
    StringText.quoted (s := "😀") (.cons (.pair (by decide) (by decide)
      (.digits (a := 'd') (b := '8') (c := '3') (d := 'd') rfl rfl rfl rfl)
      (.digits (a := 'd') (b := 'e') (c := '0') (d := '0') rfl rfl rfl rfl) (by decide)) .nil)
  have hArray : DocumentText 126 (.array items) "[ -1 , \"\\ud83d\\ude00\" ]".toList :=
    Json.documentText_array (.brackets (.cons
      (.between hSpace (Json.documentText_integer (-1)) hSpace)
      (.single (.between hSpace (Json.documentText_string hFace) hSpace))))
  let Written (m : String × Json) : List Char → Prop := MemberText m.1 (DocumentText 126) m.2
  have hFirst : Written ("b", .null) "\"b\" : null".toList :=
    MemberText.colon (Json.stringText_renderString "b") hSpace hSpace (Json.documentText_render .null)
  have hSecond : Written ("a", .array items) "\"\\u0061\" : [ -1 , \"\\ud83d\\ude00\" ]".toList :=
    MemberText.colon hName hSpace hSpace hArray
  have hObject : ObjectText Written [("b", .null), ("a", .array items)]
      "\x7b \"b\" : null ,\t\"\\u0061\" : [ -1 , \"\\ud83d\\ude00\" ] \x7d".toList :=
    ObjectText.braces (.cons (.between hSpace hFirst hSpace) (.single (.between hTab hSecond hSpace)))
  have hSpelled : Padded (DocumentText 127) d
      " \x7b \"b\" : null ,\t\"\\u0061\" : [ -1 , \"\\ud83d\\ude00\" ] \x7d\n".toList :=
    .between hSpace (Json.documentText_object (List.Perm.swap _ _ _) hObject) hLine
  have hPrinted : Padded (DocumentText 127) d "\x7b\"a\":[-1,\"😀\"],\"b\":null\x7d".toList :=
    Json.padded_of_written (Json.documentText_render hd)
  have hShortText : Padded (DocumentText 127) short "\x7b\"b\":null\x7d".toList :=
    Json.padded_of_written (Json.documentText_render hShort)
  obtain ⟨same, hSame, -, hAgrees, -⟩ := json_agrees_iff_same_document hd hd hPrinted hSpelled
  obtain ⟨same', hDiffer, -, -, hAgrees'⟩ := json_agrees_iff_same_document hd hShort hPrinted hShortText
  have hTrue : same = true := hSame.mpr rfl
  have hFalse : same' = false := by
    rw [← Bool.not_eq_true, hDiffer]
    simp [d, short]
  rw [hAgrees, hAgrees', hTrue, hFalse]
  exact ⟨rfl, rfl⟩

end Value

end ScriptedDb
