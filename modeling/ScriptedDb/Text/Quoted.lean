import ScriptedDb.Text.Unprintable
import ScriptedDb.Text.Combining

/-! Quoted texts, as messages show them. A quoted text holds no bare quote, and can be read back. -/

namespace ScriptedDb.Text

/-- Whether a character is written as its code point: it has no glyph of its own, or it would
attach to the character before it. Every printing ASCII character shows. -/
def isHidden (c : Char) : Bool :=
  if 0x20 ≤ c.toNat ∧ c.toNat ≤ 0x7E then false
  else unprintable.contains c || combining.contains c

def escape (c : Char) : List Char :=
  if c = '"' then ['\\', '"']
  else if c = '\\' then ['\\', '\\']
  else if c = '\n' then ['\\', 'n']
  else if c = '\r' then ['\\', 'r']
  else if c = '\t' then ['\\', 't']
  else if c = '\x00' then ['\\', '0']
  else if isHidden c then ['\\', 'u', '\x7b'] ++ Nat.toDigits 16 c.toNat ++ ['\x7d']
  else [c]

def quoted (s : String) : String :=
  String.ofList ('"' :: s.toList.flatMap escape ++ ['"'])

def quotedList (ss : List String) : String :=
  "[" ++ ", ".intercalate (ss.map quoted) ++ "]"

end ScriptedDb.Text
