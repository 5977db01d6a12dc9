import Mathlib.Tactic.SplitIfs
import ScriptedDb.Json.Printer
import ScriptedDb.Json.Spelling

namespace ScriptedDb

namespace Json

open Text.CodeRanges (hexDigit?)

variable {α : Type} {W : α → List Char → Prop}

theorem hexDigit_hexChar : ∀ n, n < 16 → hexDigit? (hexChar n) = some n := by
  decide

/-- A character is printed as itself or as an escape for it. -/
theorem charText_escape (c : Char) : CharText c (escape c) := by
  rw [escape]
  split_ifs with hQuote hBackslash hLine hReturn hTab hBack hForm hControl
  · exact .letter (by rw [hQuote]; rfl)
  · exact .letter (by rw [hBackslash]; rfl)
  · exact .letter (by rw [hLine]; rfl)
  · exact .letter (by rw [hReturn]; rfl)
  · exact .letter (by rw [hTab]; rfl)
  · exact .letter (by rw [hBack]; rfl)
  · exact .letter (by rw [hForm]; rfl)
  · have hZero : hexDigit? '0' = some 0 := rfl
    have hDigits := HexText.digits hZero hZero
      (hexDigit_hexChar (c.toNat / 16) (by omega)) (hexDigit_hexChar (c.toNat % 16) (by omega))
    have hValue : ((0 * 16 + 0) * 16 + c.toNat / 16) * 16 + c.toNat % 16 = c.toNat := by omega
    rw [hValue] at hDigits
    exact .unit hDigits
  · exact .verbatim hQuote hBackslash (Nat.le_of_not_lt hControl)

theorem charsText_escape (cs : List Char) : CharsText cs (cs.flatMap escape) := by
  induction cs with
  | nil => exact .nil
  | cons c cs ih =>
    rw [List.flatMap_cons]
    exact .cons (charText_escape c) ih

theorem stringText_renderString (s : String) : StringText s (renderString s) :=
  .quoted (charsText_escape s.toList)

theorem stringText_render (s : String) : StringText s (string s).render := by
  rw [render]
  exact stringText_renderString s

theorem padded_of_written {x : α} {text : List Char} (h : W x text) : Padded W x text := by
  have hPadded := Padded.between blanks_nil h blanks_nil
  rwa [List.append_nil, List.nil_append] at hPadded

/-- Items with nothing but a comma between them. -/
theorem listed_commaSeparated {print : α → List Char} {xs : List α}
    (h : ∀ x ∈ xs, W x (print x)) : Listed W xs (commaSeparated (xs.map print)) := by
  induction xs with
  | nil => exact .nil blanks_nil
  | cons x xs ih =>
    have hFirst := padded_of_written (h x List.mem_cons_self)
    have hOthers := ih fun y hy => h y (List.mem_cons_of_mem x hy)
    cases xs with
    | nil => exact .single hFirst
    | cons y ys => exact .cons hFirst hOthers

theorem renderItems_eq_map (items : List Json) : renderItems items = items.map render := by
  induction items with
  | nil => rfl
  | cons item items ih => rw [renderItems, ih, List.map_cons]

theorem arrayText_render {toJson : α → Json} {xs : List α}
    (h : ∀ x ∈ xs, W x (toJson x).render) : ArrayText W xs (array (xs.map toJson)).render := by
  rw [render, renderItems_eq_map, List.map_map]
  exact .brackets (listed_commaSeparated h)

theorem memberText_render (key : String) {x : α} {j : Json} (h : W x j.render) :
    MemberText key W x (renderString key ++ ':' :: j.render) :=
  .colon (stringText_renderString key) blanks_nil blanks_nil h

theorem objectText_render {key : String} {x : α} {j : Json} (h : W x j.render) :
    ObjectText (MemberText key W) [x] (object [(key, j)]).render := by
  rw [render, renderMembers, renderMembers, commaSeparated]
  exact .braces (.single (padded_of_written (memberText_render key h)))

end Json

end ScriptedDb
