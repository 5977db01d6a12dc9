import ScriptedDb.Proofs.Json.Integers
import ScriptedDb.Proofs.Json.Printed
import ScriptedDb.Proofs.Json.Structure
import ScriptedDb.Value.Codec

/-! What a value is written as tells its kind by the key of an object, and the payload is read by
the reader that goes with the kind. -/

namespace ScriptedDb

open Json (MemberText ObjectText Reads StringText)

namespace Value

def isFloat : Value → Bool
  | .float _ => true
  | _ => false

theorem readKind_stringText {kind : String} (hKind : kindNames.contains kind = true)
    {name : List Char} (h : StringText kind name) (rest : List Char) :
    readKind (name ++ rest) = .ok (kind, rest) := by
  have hName := Json.readText_stringText h Json.blanks_nil "variant identifier" rest
  rw [List.nil_append] at hName
  rw [readKind, hName]
  simp only [hKind, if_true]

theorem readTag_stringText {kind : String} (hKind : kindNames.contains kind = true)
    {name blanks : List Char} (hBlanks : Json.Blanks blanks) (h : StringText kind name)
    (rest : List Char) : readTag (blanks ++ (name ++ rest)) = .ok (kind, rest) := by
  have hRead := readKind_stringText hKind h rest
  cases h
  rw [readTag, Json.skipBlank_append hBlanks, List.cons_append, Json.skipBlank_cons (by decide)]
  simpa using hRead

variable {α : Type} {W : α → List Char → Prop}

/-- A value is read from an object whose one member has the name of its kind for a key. -/
theorem reads_tagged {kind : String} (hKind : kindNames.contains kind = true) {x : α} {v : Value}
    {text : List Char} (h : ObjectText (MemberText kind W) [x] text)
    (hPayload : ∀ t, W x t → Reads (readPayload kind) v t) : Reads read v text := by
  obtain ⟨hMembers⟩ := h
  refine ⟨⟨'\x7b', _, rfl, by decide, by decide⟩, fun {before rest} hBefore _ => ?_⟩
  rw [read, Json.skipBlank_append hBefore, List.cons_append, Json.skipBlank_cons (by decide)]
  simp only [if_true]
  obtain _ | hMember := hMembers
  obtain ⟨hBlanks, hColon, hAfter⟩ := hMember
  obtain ⟨hName, hBeforeColon, hAfterColon, hText⟩ := hColon
  have hEnd : Json.Delimited ('\x7d' :: rest) := Json.delimited_cons (by simp) rest
  simp only [List.append_assoc, List.cons_append, List.nil_append]
  rw [readTagged, readTag_stringText hKind hBlanks hName]
  simp only [Json.colon_append hBeforeColon,
    (hPayload _ hText).reads hAfterColon (hEnd.append hAfter), Json.skipBlank_append hAfter]
  rw [Json.skipBlank_cons (by decide)]
  simp only [if_true]

theorem reads_readInt64 (i : Int64) : Reads readInt64 i (Json.renderInt i.toInt) := by
  have hRead : Reads readInt64 (Int64.ofInt i.toInt) _ :=
    (Json.reads_readInteger "i64" (Json.fits_int64 i) i.minValue_le_toInt i.toInt_le).map
      Int64.ofInt fun s => rfl
  rwa [Int64.ofInt_toInt] at hRead

theorem reads_readByte (b : UInt8) : Reads readByte b (Json.renderInt b.toNat) := by
  have hHigh : (b.toNat : Int) ≤ 255 := by
    have hByte := b.toNat_lt
    omega
  have hRead : Reads readByte (UInt8.ofNat (b.toNat : Int).toNat) _ :=
    (Json.reads_readInteger "u8" (Json.fits_byte b) (Int.natCast_nonneg _) hHigh).map
      (fun i => UInt8.ofNat i.toNat) fun s => rfl
  rwa [Int.toNat_natCast, UInt8.ofNat_toNat] at hRead

theorem reads_readBytes (bytes : List UInt8) :
    Reads (Json.readArray readByte) bytes
      (Json.array (bytes.map fun b => .number (.integer b.toNat))).render :=
  Json.reads_readArray (Json.arrayText_render fun b _ => reads_readByte b)

theorem reads_tagged_render {kind : String} (hKind : kindNames.contains kind = true) {v : Value}
    {payload : Json} (h : Reads (readPayload kind) v payload.render) :
    Reads read v (tagged kind payload).render :=
  reads_tagged hKind (Json.objectText_render h) fun _ ht => ht

/-- Null is read as the bare name of its kind. -/
theorem reads_null : Reads read .null Value.null.toJson.render := by
  have hName := Json.stringText_render "Null"
  refine ⟨hName.startsItem, fun {before rest} hBefore _ => ?_⟩
  have hKind := readKind_stringText (by decide) hName rest
  rw [toJson, read, (hName.startsItem.append rest).skipBlank_append hBefore]
  rw [Json.render, Json.renderString, List.cons_append] at hKind ⊢
  dsimp only
  rw [if_neg (by decide), if_pos rfl, hKind]
  simp only [if_true]

/-- A value that is no floating-point number is read as it was written. -/
theorem reads_toJson {v : Value} (h : v.isFloat = false) : Reads read v v.toJson.render := by
  cases v with
  | text s =>
    have hText := Json.reads_readText (Json.stringText_render s) "a string"
    exact reads_tagged_render (by decide) (hText.map Value.text fun s => by simp [readPayload])
  | integer i =>
    exact reads_tagged_render (by decide)
      ((reads_readInt64 i).map Value.integer fun s => by simp [readPayload])
  | float x => cases h
  | boolean b =>
    exact reads_tagged_render (by decide)
      ((Json.reads_readBool b).map Value.boolean fun s => by simp [readPayload])
  | blob bytes =>
    exact reads_tagged_render (by decide)
      ((reads_readBytes bytes).map Value.blob fun s => by simp [readPayload])
  | timestamp t =>
    exact reads_tagged_render (by decide)
      ((reads_readInt64 t).map Value.timestamp fun s => by simp [readPayload])
  | json s =>
    have hText := Json.reads_readText (Json.stringText_render s) "a string"
    exact reads_tagged_render (by decide) (hText.map Value.json fun s => by simp [readPayload])
  | null => exact reads_null

end Value

namespace Row

def Floatless (row : Row) : Prop :=
  ∀ v ∈ row.values, v.isFloat = false

instance (row : Row) : Decidable row.Floatless :=
  List.decidableBAll (fun v : Value => v.isFloat = false) row.values

/-- The one member of a row is read when it was not known before. -/
theorem readsMember_values {row : Row} {text : List Char}
    (h : MemberText "values" (Reads (Json.readArray Value.read)) row.values text) :
    Json.ReadsMember readMember none (some row.values) text := by
  refine Json.readsMember_memberText h (fun t ht => ht) ?_
  intro s s' hColon rest hRead
  simp [readMember, Json.readField, hColon, hRead, Except.map]

/-- A row without floating-point numbers is read as it was written. -/
theorem reads_toJson {row : Row} (h : row.Floatless) : Reads read row row.toJson.render := by
  have hArray : Reads (Json.readArray Value.read) row.values
      (Json.array (row.values.map Value.toJson)).render :=
    Json.reads_readArray (Json.arrayText_render fun v hv => Value.reads_toJson (h v hv))
  have hObject : ObjectText (MemberText "values" (Reads (Json.readArray Value.read))) [row.values]
      row.toJson.render := Json.objectText_render hArray
  refine Json.reads_objectText hObject (.cons (fun t ht => readsMember_values ht) .nil) ?_
  intro s r hSkip rest hMembers
  rw [read, hSkip]
  simp [hMembers]

/-- Rows without floating-point numbers come back from the text they are encoded as, value by value, so
that different ones never have the same encoding. -/
theorem row_round_trip {row : Row} (h : row.Floatless) :
    decode row.encode = .ok row ∧
      ∀ other : Row, other.Floatless → other.encode = row.encode → other = row := by
  have hDecode : ∀ {row : Row}, row.Floatless → decode row.encode = .ok row := by
    intro row h
    have hPadded := Json.padded_of_written (reads_toJson h)
    refine Json.readWhole_of_reads (W := Reads read) (x := row) ?_ fun t ht => ht
    rwa [encode, Json.text, String.toList_ofList]
  refine ⟨hDecode h, fun other hOther hSame => ?_⟩
  have hBoth := hDecode hOther
  rw [hSame, hDecode h] at hBoth
  exact (Except.ok.inj hBoth).symm

/-- A row with a value of every kind but one. -/
theorem row_round_trip_every_kind :
    let row : Row := ⟨[.text "\"é\n", .integer Int64.minValue, .boolean false, .blob [0, 255],
      .timestamp (-1), .json "\x7b", .null]⟩
    decode row.encode = .ok row :=
  (row_round_trip (by decide)).1

end Row

end ScriptedDb
