/-! The reader takes one byte at a time and refuses at the first byte that rules the text out, so a
failure says where the broken sequence begins. -/

namespace ScriptedDb.Text.Utf8

/-- Why bytes are no UTF-8: the index of the first byte of the broken sequence and the number of
its bytes before the one that breaks it, or `none` when the bytes end inside it. -/
structure Failure where
  index : Nat
  length : Option Nat
  deriving DecidableEq, Repr

def Failure.message (f : Failure) : String :=
  match f.length with
  | some n => s!"invalid utf-8 sequence of {n} bytes from index {f.index}"
  | none => s!"incomplete utf-8 byte sequence from index {f.index}"

/-- A sequence whose first bytes have been read: the bits they carry, how many bytes were read and
how many are owed, and the range of the next one. -/
structure Partial where
  bits : Nat
  read : Nat
  owed : Nat
  low : Nat
  high : Nat

/-- What the first byte of a sequence says about the rest, unless no sequence begins with it. A
byte below 128 owes nothing. The narrow ranges after `E0`, `ED`, `F0` and `F4` shut out overlong
forms, surrogates and numbers above `10FFFF`. -/
def lead? (b : Nat) : Option Partial :=
  if b ≤ 0x7F then some ⟨b, 1, 0, 0x80, 0xBF⟩
  else if 0xC2 ≤ b ∧ b ≤ 0xDF then some ⟨b - 0xC0, 1, 1, 0x80, 0xBF⟩
  else if b = 0xE0 then some ⟨0, 1, 2, 0xA0, 0xBF⟩
  else if b = 0xED then some ⟨0xD, 1, 2, 0x80, 0x9F⟩
  else if 0xE1 ≤ b ∧ b ≤ 0xEF then some ⟨b - 0xE0, 1, 2, 0x80, 0xBF⟩
  else if b = 0xF0 then some ⟨0, 1, 3, 0x90, 0xBF⟩
  else if 0xF1 ≤ b ∧ b ≤ 0xF3 then some ⟨b - 0xF0, 1, 3, 0x80, 0xBF⟩
  else if b = 0xF4 then some ⟨4, 1, 3, 0x80, 0x8F⟩
  else none

def Partial.push? (p : Partial) (b : Nat) : Option Partial :=
  if p.low ≤ b ∧ b ≤ p.high then
    some ⟨p.bits * 64 + (b - 0x80), p.read + 1, p.owed - 1, 0x80, 0xBF⟩
  else none

def decodeFrom (index : Nat) : Option Partial → List UInt8 → Except Failure (List Char)
  | none, [] => .ok []
  | some _, [] => .error ⟨index, none⟩
  | none, b :: bs =>
    match lead? b.toNat with
    | none => .error ⟨index, some 1⟩
    | some p =>
      if p.owed = 0 then (decodeFrom (index + 1) none bs).map (Char.ofNat p.bits :: ·)
      else decodeFrom index (some p) bs
  | some p, b :: bs =>
    match p.push? b.toNat with
    | none => .error ⟨index, some p.read⟩
    | some p =>
      if p.owed = 0 then (decodeFrom (index + p.read) none bs).map (Char.ofNat p.bits :: ·)
      else decodeFrom index (some p) bs

def decode (bytes : List UInt8) : Except Failure (List Char) :=
  decodeFrom 0 none bytes

end ScriptedDb.Text.Utf8
