import ScriptedDb.Number.Numeral

/-! Which texts are integers and which are decimal numerals, apart from how a reader finds out. -/

namespace ScriptedDb.Numeral

/-- A sign that may stand before a number, and whether it is a minus. -/
inductive SignText : Bool → List Char → Prop where
  | absent : SignText false []
  | plus : SignText false ['+']
  | minus : SignText true ['-']

/-- Decimal digits, or none, and the number that they write. -/
inductive DigitsText : Nat → List Char → Prop where
  | nil : DigitsText 0 []
  | snoc {n d : Nat} {ds : List Char} : DigitsText n ds → d < 10 →
      DigitsText (10 * n + d) (ds ++ [d.digitChar])

/-- An integer: digits, of which there is one at least, after an optional sign. -/
inductive IntegerText : Int → List Char → Prop where
  | signed {negative : Bool} {n : Nat} {s ds : List Char} : SignText negative s → DigitsText n ds →
      ds ≠ [] → IntegerText (if negative then -(n : Int) else n) (s ++ ds)

/-- The digits of a decimal numeral, of which there is one at least, with at most one point. -/
inductive MantissaText : List Char → Prop where
  | whole {n : Nat} {ds : List Char} : DigitsText n ds → ds ≠ [] → MantissaText ds
  | pointed {n m : Nat} {ds fraction : List Char} : DigitsText n ds → DigitsText m fraction →
      ds ++ fraction ≠ [] → MantissaText (ds ++ '.' :: fraction)

/-- An exponent that may stand after the digits: an integer after its mark. -/
inductive ExponentText : List Char → Prop where
  | absent : ExponentText []
  | marked {mark : Char} {e : Int} {text : List Char} : mark = 'e' ∨ mark = 'E' → IntegerText e text →
      ExponentText (mark :: text)

inductive DecimalText : List Char → Prop where
  | signed {negative : Bool} {s mantissa exponent : List Char} : SignText negative s →
      MantissaText mantissa → ExponentText exponent → DecimalText (s ++ (mantissa ++ exponent))

/-- An infinity or NaN, written as a word after an optional sign. -/
inductive WordText : List Char → Prop where
  | signed {negative : Bool} {s word : List Char} : SignText negative s →
      String.ofList (word.map lower) ∈ ["inf", "infinity", "nan"] → WordText (s ++ word)

end ScriptedDb.Numeral
