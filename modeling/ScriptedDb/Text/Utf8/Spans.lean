/-! Every span of characters is a union of disjoint sets of byte sequences in which each byte runs
through a span of its own. -/

namespace ScriptedDb.Text.Utf8

abbrev ByteSpan := Nat × Nat

def encode (n : Nat) : List Nat :=
  let continuation (k : Nat) : Nat := 0x80 + n / Nat.pow 64 k % 64
  if n < 0x80 then [n]
  else if n < 0x800 then [0xC0 + n / 64, continuation 0]
  else if n < 0x10000 then [0xE0 + n / 4096, continuation 1, continuation 0]
  else [0xF0 + n / 262144, continuation 2, continuation 1, continuation 0]

/-- Where a span of code points must be divided: the end of its first part and the beginning of
its second. It is divided around the surrogates, where the number of bytes changes, and so that
all but one of the bytes run through all their values. -/
def divide? (low high : Nat) : Option (Nat × Nat) :=
  if low < 0xE000 ∧ 0xD7FF < high then some (0xD7FF, 0xE000)
  else
    match [0x7F, 0x7FF, 0xFFFF].find? fun bound => low ≤ bound && bound < high with
    | some bound => some (bound, bound + 1)
    | none =>
      if high ≤ 0x7F then none
      else
        [64, 4096, 262144].findSome? fun block =>
          if low / block = high / block then none
          else if low % block ≠ 0 then
            let next := (low / block + 1) * block
            some (next - 1, next)
          else if high % block ≠ block - 1 then
            let last := high / block * block
            some (last - 1, last)
          else none

def byteSpans (low high : Nat) : List (List ByteSpan) :=
  match divide? low high with
  | none => [(encode low).zip (encode high)]
  | some (first, second) =>
    if low ≤ first ∧ first < second ∧ second ≤ high then
      byteSpans low first ++ byteSpans second high
    else []
  termination_by high - low

end ScriptedDb.Text.Utf8
