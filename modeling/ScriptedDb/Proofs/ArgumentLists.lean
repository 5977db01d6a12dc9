import ScriptedDb.Argument
import ScriptedDb.Proofs.Json.Integers
import ScriptedDb.Proofs.Text.Quoted
import ScriptedDb.Proofs.ValueOrder

/-! Within its kind a value shows its own end, so a list is taken apart from the front.
Floating-point numbers and JSON values are left out: some that differ are shown alike. -/

namespace ScriptedDb

open Text (BeginsApart Ends SelfDelimiting ends_cons ends_of_never)

namespace Value

/-- Whether a value is of a kind that messages show in a form of its own. -/
def hasOwnForm : Value → Bool
  | .float _ => false
  | .json _ => false
  | _ => true

theorem toList_toString_int (i : Int) : (toString i).toList = Json.renderInt i := by
  rw [Int.toString_eq_repr, Int.repr_eq_if, Json.renderInt]
  by_cases hSign : i < 0
  · rw [if_neg (by omega), if_pos hSign, String.toList_append, Nat.toList_repr]
    have hAbs : (-i).toNat = i.natAbs := by omega
    rw [hAbs]
    rfl
  · rw [if_pos (by omega), if_neg hSign, Nat.toList_repr]
    have hAbs : i.toNat = i.natAbs := by omega
    rw [hAbs]

def continuesInteger (c : Char) : Bool :=
  c == '-' || Numeral.isDigit c

theorem continuesInteger_of_mem_renderInt {i : Int} {c : Char} (hc : c ∈ Json.renderInt i) :
    continuesInteger c = true := by
  have hDigit : ∀ {n : Nat}, c ∈ Nat.toDigits 10 n → continuesInteger c = true := by
    intro n hc
    simp [continuesInteger, Numeral.isDigit_of_mem_toDigits hc]
  unfold Json.renderInt at hc
  split at hc
  · rcases List.mem_cons.mp hc with rfl | hc
    · rfl
    · exact hDigit hc
  · exact hDigit hc

theorem selfDelimiting_int64 : SelfDelimiting (fun _ => True) continuesInteger
    (fun i : Int64 => (toString i.toInt).toList) := by
  apply Text.selfDelimiting_of_run
  · intro i _ c hc
    rw [toList_toString_int] at hc
    exact continuesInteger_of_mem_renderInt hc
  · intro i j _ _ h
    rw [toList_toString_int, toList_toString_int] at h
    have hRead : ∀ k : Int64, Numeral.int64? (Json.renderInt k.toInt) = some k :=
      fun k => Numeral.int64?_eq_some_iff.mpr (Json.integerText_renderInt k.toInt)
    rw [← Option.some_inj, ← hRead i, ← hRead j, h]

theorem byteHex_append_inj {b b' : UInt8} {s t : List Char} (h : byteHex b ++ s = byteHex b' ++ t) :
    b = b' ∧ s = t := by
  have hByte := b.toNat_lt
  have hByte' := b'.toNat_lt
  simp only [byteHex, List.cons_append, List.nil_append, List.cons.injEq] at h
  obtain ⟨hHigh, hLow, rfl⟩ := h
  have hDiv : b.toNat / 16 = b'.toNat / 16 := Text.digitChar_inj (by omega) (by omega) hHigh
  have hMod : b.toNat % 16 = b'.toNat % 16 := Text.digitChar_inj (by omega) (by omega) hLow
  exact ⟨UInt8.toNat_inj.mp (by omega), rfl⟩

/-- The bytes of a blob end at the closing quote. -/
theorem selfDelimiting_bytes : SelfDelimiting (fun _ => True) (fun _ => false)
    (fun bytes : List UInt8 => bytes.flatMap byteHex ++ ['\'']) := by
  have hByte : SelfDelimiting (fun _ => True) (fun _ => false) byteHex :=
    fun _ _ _ _ _ _ _ _ hText => byteHex_append_inj hText
  have hBegins : BeginsApart (fun _ => True) (fun _ => false) '\'' byteHex := by
    intro b _
    have hQuote : ∀ n < 16, n.digitChar ≠ '\'' := by decide
    have hHigh := b.toNat_lt
    exact ⟨_, _, rfl, hQuote _ (by omega), rfl⟩
  intro bytes bytes' _ _ s t hs ht hText
  exact hByte.sequence hBegins rfl (fun _ _ => trivial) (fun _ _ => trivial) hs ht hText

/-- The kind of value that a text begins with, which its first two characters tell. -/
def announced? : List Char → Option String
  | '"' :: _ => some "text"
  | 'x' :: _ => some "blob"
  | 'N' :: _ => some "null"
  | 'f' :: _ => some "boolean"
  | 't' :: 'r' :: _ => some "boolean"
  | 't' :: 's' :: _ => some "timestamp"
  | c :: _ => if continuesInteger c then some "integer" else none
  | [] => none

theorem announced?_of_continuesInteger {c : Char} (hc : continuesInteger c = true) (s : List Char) :
    announced? (c :: s) = some "integer" := by
  unfold announced?
  split
  case h_7 h =>
    obtain ⟨rfl, -⟩ := List.cons.inj h
    rw [if_pos hc]
  case h_8 h => cases h
  -- The other characters are neither digits nor signs.
  all_goals
    rename_i h
    obtain ⟨rfl, -⟩ := List.cons.inj h
    cases hc

theorem announced?_render {v : Value} (h : v.hasOwnForm = true) (s : List Char) :
    announced? (v.render.toList ++ s) = some v.typeName := by
  cases v with
  | float | json => cases h
  | integer i =>
    obtain ⟨c, ds, hText, -⟩ := Json.exists_renderInt_eq_cons i.toInt
    have hc : continuesInteger c = true :=
      continuesInteger_of_mem_renderInt (i := i.toInt) (by simp [hText])
    rw [render, toList_toString_int, hText]
    exact announced?_of_continuesInteger hc _
  | boolean b => cases b <;> rfl
  | text u => simp [render, Text.quoted, announced?, typeName]
  | blob bytes => simp [render, announced?, typeName]
  | timestamp i => simp [render, announced?, typeName]
  | null => rfl

/-- A value shows its own kind, content and end, as long as no digit and no sign follows. -/
theorem selfDelimiting_render :
    SelfDelimiting (fun v => hasOwnForm v = true) continuesInteger (fun v => v.render.toList) := by
  intro v w hv hw s t hs ht hText
  have hKind : v.typeName = w.typeName := by
    rw [← Option.some_inj, ← announced?_render hv s, hText, announced?_render hw t]
  -- Of two values of one kind the forms are compared from their first characters on.
  cases sameKind_of_typeName_eq hKind with
  | float | json => cases hv
  | null => exact ⟨rfl, List.append_cancel_left hText⟩
  | boolean b b' => cases b <;> cases b' <;> simp_all [render, toString]
  | text a b =>
    obtain ⟨rfl, rfl⟩ := Text.selfDelimiting_quoted trivial trivial (ends_of_never s) (ends_of_never t)
      hText
    exact ⟨rfl, rfl⟩
  | integer i j =>
    obtain ⟨rfl, rfl⟩ := selfDelimiting_int64 trivial trivial hs ht hText
    exact ⟨rfl, rfl⟩
  | timestamp i j =>
    simp only [render, String.toList_append, List.append_assoc] at hText
    have hNumber := List.append_cancel_left hText
    obtain ⟨rfl, hRest⟩ := selfDelimiting_int64 trivial trivial (ends_cons (by decide) s)
      (ends_cons (by decide) t) hNumber
    exact ⟨rfl, (List.cons.inj hRest).2⟩
  | blob bytes bytes' =>
    simp only [render, String.toList_append, String.toList_ofList, List.append_assoc] at hText
    have hBytes := List.append_cancel_left hText
    rw [← List.append_assoc, ← List.append_assoc] at hBytes
    obtain ⟨rfl, rfl⟩ := selfDelimiting_bytes trivial trivial (ends_of_never s) (ends_of_never t) hBytes
    exact ⟨rfl, rfl⟩

/-- A value does not begin like the end of a list. -/
theorem render_ne_bracket {v : Value} (h : v.hasOwnForm = true) (s t : List Char) :
    v.render.toList ++ s ≠ ']' :: t := by
  intro hText
  have hKind := announced?_render h s
  rw [hText] at hKind
  cases hKind

def renderLater (v : Value) : List Char :=
  ',' :: ' ' :: v.render.toList

/-- Past the first value, what is written counts as one item in front of the values to come. -/
theorem renderFrom_add_one (out : String) (index : Nat) (vs : List Value) :
    renderFrom out (index + 1) vs = ", ".intercalate (out :: vs.map render) := by
  induction vs generalizing out index with
  | nil => simp [renderFrom]
  | cons v vs ih =>
    rw [renderFrom, if_pos (Nat.succ_pos index), ih, List.map_cons, String.intercalate_cons_cons,
      String.intercalate_cons_append]

/-- A list shows its values with a comma and a space between neighbours. -/
theorem renderList_eq_intercalate (vs : List Value) :
    renderList vs = "[" ++ ", ".intercalate (vs.map render) ++ "]" := by
  cases vs with
  | nil => rfl
  | cons v vs =>
    rw [renderList, renderFrom, if_neg (Nat.lt_irrefl 0), renderFrom_add_one,
      String.intercalate_cons_append, List.map_cons]

theorem intercalate_render (v : Value) (vs : List Value) :
    [',', ' '].intercalate (v.render.toList :: vs.map (·.render.toList)) =
      v.render.toList ++ vs.flatMap renderLater := by
  induction vs generalizing v with
  | nil => simp
  | cons w vs ih => simp [List.intercalate_cons_cons, ih w, renderLater]

theorem toList_renderList_nil : (renderList []).toList = ['[', ']'] := by
  rfl

theorem toList_renderList_cons (v : Value) (vs : List Value) :
    (renderList (v :: vs)).toList =
      '[' :: (v.render.toList ++ (vs.flatMap renderLater ++ [']'])) := by
  have hItems := intercalate_render v vs
  simp [renderList_eq_intercalate, Function.comp_def, hItems]

theorem beginsApart_renderLater :
    BeginsApart (fun v => hasOwnForm v = true) continuesInteger ']' renderLater :=
  fun _ _ => ⟨',', _, rfl, by decide, by decide⟩

theorem selfDelimiting_renderLater :
    SelfDelimiting (fun v => hasOwnForm v = true) continuesInteger renderLater := by
  intro v w hv hw s t hs ht hText
  exact selfDelimiting_render hv hw hs ht (List.cons.inj (List.cons.inj hText).2).2

/-- A list of values shows its own end and its values, whatever follows. -/
theorem selfDelimiting_renderList :
    SelfDelimiting (fun vs : List Value => ∀ v ∈ vs, v.hasOwnForm = true) (fun _ => false)
      (fun vs => (renderList vs).toList) := by
  have hLater := selfDelimiting_renderLater.sequence beginsApart_renderLater (by decide)
  have hEnds : ∀ {us : List Value}, (∀ u ∈ us, u.hasOwnForm = true) → ∀ s,
      Ends continuesInteger (us.flatMap renderLater ++ ']' :: s) :=
    fun hus s => Text.ends_sequence beginsApart_renderLater (by decide) hus s
  -- The first value has no comma before it, so it is parted from the others, which are a sequence.
  intro vs ws hvs hws s t hs ht hText
  cases vs with
  | nil =>
    cases ws with
    | nil => exact ⟨rfl, List.append_cancel_left hText⟩
    | cons w ws =>
      simp only [toList_renderList_nil, toList_renderList_cons, List.cons_append, List.nil_append,
        List.cons.injEq, true_and, List.append_assoc] at hText
      exact absurd hText.symm (render_ne_bracket (hws w List.mem_cons_self) _ s)
  | cons v vs =>
    cases ws with
    | nil =>
      simp only [toList_renderList_nil, toList_renderList_cons, List.cons_append, List.nil_append,
        List.cons.injEq, true_and, List.append_assoc] at hText
      exact absurd hText (render_ne_bracket (hvs v List.mem_cons_self) _ t)
    | cons w ws =>
      rw [List.forall_mem_cons] at hvs hws
      simp only [toList_renderList_cons, List.cons_append, List.append_assoc, List.nil_append,
        List.cons.injEq, true_and] at hText
      obtain ⟨rfl, hRest⟩ := selfDelimiting_render hvs.1 hws.1 (hEnds hvs.2 s) (hEnds hws.2 t) hText
      rw [List.append_cons, List.append_cons (ws.flatMap renderLater)] at hRest
      obtain ⟨rfl, rfl⟩ := hLater hvs.2 hws.2 hs ht hRest
      exact ⟨rfl, rfl⟩

/-- Lists of values without floating-point numbers and JSON values are shown alike exactly if they are the
same list, whatever their texts hold. Declared values are shown as values are, of whichever kind. -/
theorem argument_lists_unambiguous :
    (∀ vs ws : List Value, (∀ v ∈ vs, v.hasOwnForm = true) → (∀ w ∈ ws, w.hasOwnForm = true) →
      (renderList vs = renderList ws ↔ vs = ws)) ∧
    ∀ vs : List Value, Argument.renderList (vs.map .value) = renderList vs := by
  constructor
  · intro vs ws hvs hws
    constructor
    · intro hText
      exact selfDelimiting_renderList.eq_of_write_eq hvs hws (congrArg String.toList hText)
    · rintro rfl
      rfl
  · intro vs
    have hRender : Argument.render ∘ Argument.value = render := rfl
    rw [Argument.renderList, List.map_map, hRender, renderList_eq_intercalate]

/-- A text that holds what separates two texts in a list is not shown as those two texts, and neither is
the text of a blob shown as the blob. -/
theorem argument_lists_unambiguous_quotes :
    renderList [.text "a\", \"b", .blob [0xDE]] ≠ renderList [.text "a", .text "b", .blob [0xDE]] ∧
      renderList [.text "x'de'"] ≠ renderList [.blob [0xDE]] := by
  constructor
  · rw [ne_eq, argument_lists_unambiguous.1 _ _ (by decide) (by decide)]
    decide
  · rw [ne_eq, argument_lists_unambiguous.1 _ _ (by decide) (by decide)]
    decide

/-- The text of a JSON value may well hold what separates two of them. -/
example : renderList [.json "1), json(2"] = renderList [.json "1", .json "2"] := by
  decide

end Value

end ScriptedDb
