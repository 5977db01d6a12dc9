import ScriptedDb.Proofs.Comparison

/-! An array or object that becomes a value is printed anew, and what is printed is read back as the
same document. -/

namespace ScriptedDb

namespace Value

open Json (DocumentText IsDocument MemberText ObjectText Padded Reads)

variable {d d' : Json} {t t' : String}

/-- Arrays and objects are stored as the text that is printed for them. -/
theorem ofJson_of_isComposite (h : d.isComposite = true) : ofJson d = .json d.text := by
  cases d with
  | array items => rfl
  | object members => rfl
  | null | bool _ | number _ | string _ => cases h

theorem agrees_json_of_parse (ht : Json.parse t = .ok d) (ht' : Json.parse t' = .ok d') :
    (json t).agrees (json t') = .ok (d.same d') :=
  agrees_of_ok (jsonAgrees_of_parse ht ht')

theorem text_inj_of_parse (ht : Json.parse t = .ok d) (ht' : Json.parse t' = .ok d') (hInt : d.Integral)
    (hInt' : d'.Integral) : d.text = d'.text ↔ d = d' := by
  constructor
  · intro h
    have hBoth := Json.parse_text ht hInt
    rw [h, Json.parse_text ht' hInt'] at hBoth
    exact (Except.ok.inj hBoth).symm
  · rintro rfl
    rfl

/-- The text that is stored for an array or object is a canonical form of all texts of the document, if its
numbers are integers. It agrees with each of them, it is stored for itself, and two texts agree exactly if
the stored values are equal, that is, if the stored texts are. -/
theorem stored_json_canonical (ht : Json.parse t = .ok d) (hd : d.isComposite = true) (hInt : d.Integral)
    (ht' : Json.parse t' = .ok d') (hd' : d'.isComposite = true) (hInt' : d'.Integral) :
    ofJson d = .json d.text ∧ (json d.text).agrees (json t) = .ok true ∧
      (Json.parse d.text).map ofJson = .ok (.json d.text) ∧
      (json t).agrees (json t') = .ok (compare (ofJson d) (ofJson d') == .eq) ∧
      (compare (ofJson d) (ofJson d') = .eq ↔ d.text = d'.text) := by
  have hStored := ofJson_of_isComposite hd
  have hStored' := ofJson_of_isComposite hd'
  have hText := Json.parse_text ht hInt
  have hWellFormed := Json.wellFormed_of_parse ht
  have hWellFormed' := Json.wellFormed_of_parse ht'
  have hTexts : compare (ofJson d) (ofJson d') = .eq ↔ d.text = d'.text := by
    rw [compare_eq_iff, hStored, hStored', json.injEq]
  have hSame : d.same d' = (compare (ofJson d) (ofJson d') == .eq) := by
    rw [Bool.eq_iff_iff, beq_iff_eq, hTexts, text_inj_of_parse ht ht' hInt hInt']
    exact Json.same_iff_eq (hWellFormed.isDocument hInt) (hWellFormed'.isDocument hInt')
  refine ⟨hStored, ?_, ?_, ?_, hTexts⟩
  · rw [agrees_json_of_parse hText ht, hWellFormed.same_self]
  · rw [hText, Except.map, hStored]
  · rw [agrees_json_of_parse ht ht', hSame]

/-- Of two members with one key the last counts, and neither blanks nor the order of members are stored. -/
theorem stored_json_canonical_repeated_key :
    ∃ d : Json, Json.parse "\x7b \"b\" : 1, \"a\":[-3 ],\"b\":[]\x7d" = .ok d ∧ d.isComposite = true ∧
      d.Integral ∧ Json.parse "\x7b\"a\":[-3],\"b\":[]\x7d" = .ok d ∧
      ofJson d = .json "\x7b\"a\":[-3],\"b\":[]\x7d" ∧
      (json "\x7b \"b\" : 1, \"a\":[-3 ],\"b\":[]\x7d").agrees (json "\x7b\"a\":[-3],\"b\":[]\x7d") =
        .ok true := by
  let one : Json := .number (.integer 1)
  let three : Json := .array [.number (.integer (-3))]
  let written : List (String × Json) := [("b", one), ("a", three), ("b", .array [])]
  have hNone := Json.blanks_nil
  have hSpace : Json.Blanks [' '] := by decide
  have hThree : IsDocument 126 three :=
    .array (List.forall_mem_singleton.mpr (.integer (by decide)))
  have hEmpty : IsDocument 126 (.array []) := .array (List.forall_mem_nil _)
  have hDocuments : ∀ m ∈ written, IsDocument 126 m.2 :=
    List.forall_mem_cons.mpr ⟨.integer (by decide),
      List.forall_mem_cons.mpr ⟨hThree, List.forall_mem_singleton.mpr hEmpty⟩⟩
  have hArray : DocumentText 126 three "[-3 ]".toList :=
    Json.documentText_array (.brackets (.single
      (.between hNone (Json.documentText_integer (-3)) hSpace)))
  let Written (m : String × Json) : List Char → Prop := MemberText m.1 (DocumentText 126) m.2
  have hFirst : Written ("b", one) "\"b\" : 1".toList :=
    MemberText.colon (Json.stringText_renderString "b") hSpace hSpace (Json.documentText_integer 1)
  have hSecond : Written ("a", three) "\"a\":[-3 ]".toList :=
    MemberText.colon (Json.stringText_renderString "a") hNone hNone hArray
  have hThird : Written ("b", .array []) "\"b\":[]".toList :=
    MemberText.colon (Json.stringText_renderString "b") hNone hNone (Json.documentText_render hEmpty)
  have hObject : ObjectText Written written "\x7b \"b\" : 1, \"a\":[-3 ],\"b\":[]\x7d".toList :=
    ObjectText.braces (.cons (.between hSpace hFirst hNone) (.cons (.between hSpace hSecond hNone)
      (.single (.between hNone hThird hNone))))
  have hReads : Reads (Json.document 127) (Json.ofMembers written)
      "\x7b \"b\" : 1, \"a\":[-3 ],\"b\":[]\x7d".toList :=
    Json.reads_ofMembers hObject fun m hm t ht => Json.reads_documentText (hDocuments m hm) ht
  have hParse : Json.parse "\x7b \"b\" : 1, \"a\":[-3 ],\"b\":[]\x7d" = .ok (Json.ofMembers written) :=
    Json.readWhole_of_reads (Json.padded_of_written hReads) fun t ht => ht
  let d : Json := .object [("a", three), ("b", .array [])]
  have hd : IsDocument 127 d :=
    .object (by decide) (List.forall_mem_cons.mpr ⟨hThree, List.forall_mem_singleton.mpr hEmpty⟩)
  have hPrinted : Padded (DocumentText 127) d "\x7b\"a\":[-3],\"b\":[]\x7d".toList :=
    Json.padded_of_written (Json.documentText_render hd)
  have hStored : Json.parse "\x7b\"a\":[-3],\"b\":[]\x7d" = .ok d := Json.parse_documentText hd hPrinted
  -- The first member gives way to the last one, which has its key.
  have hLast : Json.ofMembers written = d := by
    have hBefore : compare "a" "b" = .lt := by decide
    have hAfter : compare "b" "a" = .gt := by decide
    have hSame : compare "b" "b" = .eq := by decide
    simp only [Json.ofMembers, written, d, List.foldl_cons, List.foldl_nil, Json.insertMember, hBefore,
      hAfter, hSame]
  rw [hLast] at hParse
  have hText : d.text = "\x7b\"a\":[-3],\"b\":[]\x7d" := by
    have hRender : d.render = "\x7b\"a\":[-3],\"b\":[]\x7d".toList := rfl
    rw [Json.text, hRender, String.ofList_toList]
  obtain ⟨hValue, -, -, hAgrees, -⟩ :=
    stored_json_canonical hParse rfl (by decide) hStored rfl (by decide)
  rw [hText] at hValue
  rw [compare_eq_iff.mpr rfl] at hAgrees
  exact ⟨d, hParse, rfl, by decide, hStored, hValue, hAgrees⟩

end Value

end ScriptedDb
