import ScriptedDb.Proofs.Utf8
import ScriptedDb.Value.Agreement

namespace ScriptedDb

namespace Value

open Text

variable {t : String} {bytes : List UInt8}

/-- How a text is compared with bytes: it agrees with its own UTF-8, it does not agree with the UTF-8 of
another text, and bytes that are the UTF-8 of no text are refused. -/
structure ComparesByUtf8 (t : String) (bytes : List UInt8) (answer : Except Incomparable Bool) : Prop where
  same : answer = .ok true ↔ bytes.toByteArray = t.toUTF8
  other : answer = .ok false ↔ ∃ t', t' ≠ t ∧ bytes.toByteArray = t'.toUTF8
  refused : (∃ e, answer = .error e) ↔ ∀ t' : String, bytes.toByteArray ≠ t'.toUTF8
  reason : ∀ e, answer = .error e → ∃ failure, e.reason = .notUtf8 failure

/-- Values that are compared as a text with bytes are compared by UTF-8. -/
theorem comparesByUtf8_of_agreement {a b : Value} (h : agreement a b = bytesAgree t bytes) :
    ComparesByUtf8 t bytes (a.agrees b) := by
  rw [bytesAgree] at h
  cases hDecode : Utf8.decode bytes with
  | ok cs =>
    obtain ⟨u, rfl⟩ : ∃ u : String, cs = u.toList := ⟨String.ofList cs, String.toList_ofList.symm⟩
    have hAnswer : a.agrees b = .ok (u.toList == t.toList) := by
      rw [agrees_eq_ok_iff, h, hDecode]
    have hText : ∀ t' : String, bytes.toByteArray = t'.toUTF8 ↔ u = t' := by
      intro t'
      rw [← Utf8.decode_eq_ok_toList_iff, hDecode, Except.ok.injEq, String.toList_inj]
    refine ⟨?_, ?_, ?_, ?_⟩
    · rw [hAnswer, hText, Except.ok.injEq, beq_iff_eq, String.toList_inj]
    · simp only [hAnswer, hText, Except.ok.injEq, beq_eq_false_iff_ne, ne_eq, String.toList_inj]
      exact ⟨fun hOther => ⟨u, hOther, rfl⟩, fun ⟨_, hOther, hu⟩ => hu ▸ hOther⟩
    · rw [hAnswer]
      exact ⟨nofun, fun hNone => absurd ((hText u).mpr rfl) (hNone u)⟩
    · rw [hAnswer]
      exact nofun
  | error failure =>
    have hAnswer : a.agrees b = .error ⟨a.typeName, b.typeName, .notUtf8 failure⟩ := by
      refine agrees_eq_error_iff.mpr ⟨_, ?_, rfl⟩
      rw [h, hDecode]
    have hNone : ∀ t' : String, bytes.toByteArray ≠ t'.toUTF8 := by
      intro t' hBytes
      rw [← Utf8.decode_eq_ok_toList_iff, hDecode] at hBytes
      cases hBytes
    rw [hAnswer]
    refine ⟨?_, ?_, ?_, ?_⟩
    · exact ⟨nofun, fun hBytes => absurd hBytes (hNone t)⟩
    · exact ⟨nofun, fun ⟨t', _, hBytes⟩ => absurd hBytes (hNone t')⟩
    · exact ⟨fun _ => hNone, fun _ => ⟨_, rfl⟩⟩
    · rintro _ ⟨⟩
      exact ⟨failure, rfl⟩

/-- A text and bytes are compared by UTF-8, whichever of them comes first. -/
theorem text_bytes_agree_exactly (t : String) (bytes : List UInt8) :
    ComparesByUtf8 t bytes ((text t).agrees (blob bytes)) ∧
      ComparesByUtf8 t bytes ((blob bytes).agrees (text t)) :=
  ⟨comparesByUtf8_of_agreement rfl, comparesByUtf8_of_agreement rfl⟩

end Value

end ScriptedDb
