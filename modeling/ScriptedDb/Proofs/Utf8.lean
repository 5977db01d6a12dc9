import Mathlib.Algebra.Ring.Nat
import Mathlib.Tactic.SplitIfs
import ScriptedDb.Text.Utf8
import ScriptedDb.Text.Utf8.Spans

/-! What a reader has seen of a sequence leaves a span of numbers open, and `Partial.Begins` says
which. Every byte that is taken narrows that span down. -/

namespace ScriptedDb.Text.Utf8

/-- The last bytes of the encoding of a number, `count` of them with six bits each. -/
def tail (n : Nat) : (count : Nat) → List Nat
  | 0 => []
  | count + 1 => (0x80 + n / 64 ^ count % 64) :: tail n count

/-- The first byte of the encoding of a number, and how many bytes follow it. -/
inductive First (n : Nat) : (byte owed : Nat) → Prop where
  | one : n < 0x80 → First n n 0
  | two : 0x80 ≤ n → n < 0x800 → First n (0xC0 + n / 64) 1
  | three : 0x800 ≤ n → n < 0x10000 → First n (0xE0 + n / 4096) 2
  | four : 0x10000 ≤ n → First n (0xF0 + n / 262144) 3

/-- Whether the bytes that were read can begin the encoding of a number: its first bits are those read, and
the next byte, if any is owed, is in range. -/
structure Partial.Begins (p : Partial) (n : Nat) : Prop where
  bits : p.bits = n / 64 ^ p.owed
  next : ∀ count, p.owed = count + 1 →
    p.low ≤ 0x80 + n / 64 ^ count % 64 ∧ 0x80 + n / 64 ^ count % 64 ≤ p.high

/-- The next byte must be one of those that carry six bits. -/
structure Partial.InRange (p : Partial) : Prop where
  low : 0x80 ≤ p.low
  high : p.high ≤ 0xBF

variable {p q : Partial} {b n owed : Nat}

theorem exists_first (n : Nat) : ∃ b owed, First n b owed := by
  rcases Nat.lt_or_ge n 0x80 with h | h
  · exact ⟨_, _, .one h⟩
  rcases Nat.lt_or_ge n 0x800 with h' | h'
  · exact ⟨_, _, .two h h'⟩
  rcases Nat.lt_or_ge n 0x10000 with h'' | h''
  · exact ⟨_, _, .three h' h''⟩
  · exact ⟨_, _, .four h''⟩

theorem First.encode_eq (h : First n b owed) : encode n = b :: tail n owed := by
  rw [encode]
  cases h with
  | one h => rw [if_pos h, tail]
  | two h h' =>
    rw [if_neg (by omega), if_pos h']
    rfl
  | three h h' =>
    rw [if_neg (by omega), if_neg (by omega), if_pos h']
    rfl
  | four h =>
    rw [if_neg (by omega), if_neg (by omega), if_neg (by omega)]
    rfl

theorem inRange_of_lead? (h : lead? b = some p) : p.InRange := by
  unfold lead? at h
  split_ifs at h <;> obtain rfl := Option.some.inj h <;> constructor <;> simp

theorem Partial.inRange_of_push? (h : p.push? b = some q) : q.InRange := by
  unfold push? at h
  split_ifs at h
  obtain rfl := Option.some.inj h
  constructor <;> simp

/-- What a first byte says: how many bytes follow it, the bits that it carries, and where the next byte has a
narrower range. -/
theorem lead?_cases (h : lead? b = some p) :
    (p.owed = 0 ∧ p.bits = b ∧ b < 0x80) ∨
    (p.owed = 1 ∧ p.bits = b - 0xC0 ∧ 0xC2 ≤ b ∧ b ≤ 0xDF) ∨
    (p.owed = 2 ∧ p.bits = b - 0xE0 ∧ 0xE0 ≤ b ∧ b ≤ 0xEF ∧
      (b = 0xE0 → 0xA0 ≤ p.low) ∧ (b = 0xED → p.high ≤ 0x9F)) ∨
    (p.owed = 3 ∧ p.bits = b - 0xF0 ∧ 0xF0 ≤ b ∧ b ≤ 0xF4 ∧
      (b = 0xF0 → 0x90 ≤ p.low) ∧ (b = 0xF4 → p.high ≤ 0x8F)) := by
  unfold lead? at h
  split_ifs at h <;> obtain rfl := Option.some.inj h <;> simp <;> omega

/-- A first byte begins the encodings of characters only, and of those whose encodings have as many bytes as it
owes. -/
theorem first_of_lead? (h : lead? b = some p) (hBegins : p.Begins n) :
    n.isValidChar ∧ First n b p.owed := by
  unfold Nat.isValidChar
  rcases lead?_cases h with ⟨hOwed, hLead, hb⟩ | ⟨hOwed, hLead, hb⟩ | ⟨hOwed, hLead, hb, hb', hLow, hHigh⟩ |
    ⟨hOwed, hLead, hb, hb', hLow, hHigh⟩
  · have hBits : p.bits = n := by simpa [hOwed] using hBegins.bits
    obtain rfl : b = n := by omega
    rw [hOwed]
    exact ⟨by omega, .one hb⟩
  · have hBits : p.bits = n / 64 := by simpa [hOwed] using hBegins.bits
    obtain rfl : b = 0xC0 + n / 64 := by omega
    rw [hOwed]
    exact ⟨by omega, .two (by omega) (by omega)⟩
  · have hBits : p.bits = n / 4096 := by simpa [hOwed] using hBegins.bits
    have hNext := hBegins.next 1 hOwed
    obtain rfl : b = 0xE0 + n / 4096 := by omega
    rw [hOwed]
    exact ⟨by omega, .three (by omega) (by omega)⟩
  · have hBits : p.bits = n / 262144 := by simpa [hOwed] using hBegins.bits
    have hNext := hBegins.next 2 hOwed
    obtain rfl : b = 0xF0 + n / 262144 := by omega
    rw [hOwed]
    exact ⟨by omega, .four (by omega)⟩

/-- Every character has a first byte that begins its encoding. -/
theorem exists_lead? (hValid : n.isValidChar) (h : First n b owed) :
    ∃ p, lead? b = some p ∧ p.Begins n ∧ p.owed = owed := by
  unfold Nat.isValidChar at hValid
  cases h with
  | one h =>
    refine ⟨_, if_pos (by omega), ⟨by simp, by simp⟩, rfl⟩
  | two h h' =>
    refine ⟨_, (if_neg (by omega)).trans (if_pos (by omega)), ⟨by simp, ?_⟩, rfl⟩
    simp
    omega
  | three h h' =>
    unfold lead?
    rw [if_neg (by omega), if_neg (by omega)]
    split_ifs <;> try omega
    all_goals refine ⟨_, rfl, ⟨?_, ?_⟩, rfl⟩ <;> simp <;> omega
  | four h =>
    unfold lead?
    rw [if_neg (by omega), if_neg (by omega)]
    split_ifs <;> try omega
    all_goals refine ⟨_, rfl, ⟨?_, ?_⟩, rfl⟩ <;> simp <;> omega

theorem Partial.begins_iff_of_owed_zero (h : p.owed = 0) : p.Begins n ↔ n = p.bits := by
  constructor
  · intro hBegins
    simpa [h] using hBegins.bits.symm
  · rintro rfl
    exact ⟨by simp [h], by simp [h]⟩

theorem Partial.exists_push? {count : Nat} (hOwed : p.owed = count + 1) (h : p.Begins n) :
    ∃ q, p.push? (0x80 + n / 64 ^ count % 64) = some q ∧ q.owed = count ∧ q.Begins n := by
  have hBits : p.bits = n / 64 ^ count / 64 := by
    rw [h.bits, hOwed, Nat.pow_succ, Nat.div_div_eq_div_mul]
  refine ⟨_, if_pos (h.next count hOwed), ?_, ?_, ?_⟩
  · simp [hOwed]
  · simp only [hOwed, Nat.add_sub_cancel]
    omega
  · intro count' _
    simp only
    omega

/-- A byte that is taken carries the next bits. -/
theorem Partial.begins_of_push? {count : Nat} (hRange : p.InRange) (hOwed : p.owed = count + 1)
    (hPush : p.push? b = some q) (h : q.Begins n) :
    q.owed = count ∧ b = 0x80 + n / 64 ^ count % 64 ∧ p.Begins n := by
  obtain ⟨hLow, hHigh⟩ := hRange
  unfold push? at hPush
  split_ifs at hPush with hb
  obtain rfl := Option.some.inj hPush
  have hBits : p.bits * 64 + (b - 0x80) = n / 64 ^ count := by simpa [hOwed] using h.bits
  have hByte : b = 0x80 + n / 64 ^ count % 64 := by omega
  refine ⟨by simp [hOwed], hByte, ?_, ?_⟩
  · rw [hOwed, Nat.pow_succ, ← Nat.div_div_eq_div_mul]
    omega
  · intro count' hCount
    obtain rfl : count = count' := by omega
    exact hByte ▸ hb

def encodeAll (cs : List Char) : List Nat :=
  cs.flatMap fun c => encode c.toNat

/-- Whether bytes complete the character that was begun and go on with whole characters. -/
def Partial.Completes (p : Partial) (bytes : List Nat) (cs : List Char) : Prop :=
  ∃ n rest, cs = Char.ofNat n :: rest ∧ p.Begins n ∧ bytes = tail n p.owed ++ encodeAll rest

variable {bytes : List Nat} {cs : List Char}

theorem encodeAll_cons (c : Char) (cs : List Char) : encodeAll (c :: cs) = encode c.toNat ++ encodeAll cs :=
  List.flatMap_cons

theorem encodeAll_eq_nil_iff : encodeAll cs = [] ↔ cs = [] := by
  cases cs with
  | nil => simp [encodeAll]
  | cons c cs =>
    obtain ⟨b, owed, hFirst⟩ := exists_first c.toNat
    simp [encodeAll_cons, hFirst.encode_eq]

theorem Partial.completes_of_owed_zero (h : p.owed = 0) :
    p.Completes bytes cs ↔ ∃ rest, bytes = encodeAll rest ∧ Char.ofNat p.bits :: rest = cs := by
  simp only [Completes, begins_iff_of_owed_zero h, h, tail, List.nil_append]
  constructor
  · rintro ⟨n, rest, rfl, rfl, hBytes⟩
    exact ⟨rest, hBytes, rfl⟩
  · rintro ⟨rest, hBytes, rfl⟩
    exact ⟨p.bits, rest, rfl, rfl, hBytes⟩

/-- Bytes encode characters exactly if the first of them begins what the others complete. -/
theorem cons_eq_encodeAll_iff : b :: bytes = encodeAll cs ↔ ∃ p, lead? b = some p ∧ p.Completes bytes cs := by
  constructor
  · intro hBytes
    cases cs with
    | nil => cases hBytes
    | cons c rest =>
      obtain ⟨b', owed, hFirst⟩ := exists_first c.toNat
      obtain ⟨p, hLead, hBegins, rfl⟩ := exists_lead? c.valid hFirst
      rw [encodeAll_cons, hFirst.encode_eq] at hBytes
      obtain ⟨rfl, rfl⟩ := List.cons.inj hBytes
      exact ⟨p, hLead, c.toNat, rest, by rw [Char.ofNat_toNat], hBegins, rfl⟩
  · rintro ⟨p, hLead, n, rest, rfl, hBegins, rfl⟩
    obtain ⟨hValid, hFirst⟩ := first_of_lead? hLead hBegins
    have hNumber : (Char.ofNat n).toNat = n := by
      rw [Char.ofNat, dif_pos hValid]
      rfl
    rw [encodeAll_cons, hNumber, hFirst.encode_eq, List.cons_append]

/-- Where bytes are owed, the next of them is taken and the others complete what it continues. -/
theorem Partial.completes_cons_iff (hRange : p.InRange) (hOwed : p.owed ≠ 0) :
    p.Completes (b :: bytes) cs ↔ ∃ q, p.push? b = some q ∧ q.Completes bytes cs := by
  obtain ⟨count, hCount⟩ := Nat.exists_eq_succ_of_ne_zero hOwed
  constructor
  · rintro ⟨n, rest, rfl, hBegins, hBytes⟩
    obtain ⟨q, hPush, hOwed', hAfter⟩ := exists_push? hCount hBegins
    rw [hCount] at hBytes
    obtain ⟨rfl, rfl⟩ := List.cons.inj hBytes
    exact ⟨q, hPush, n, rest, rfl, hAfter, by rw [hOwed']; rfl⟩
  · rintro ⟨q, hPush, n, rest, rfl, hBegins, rfl⟩
    obtain ⟨hOwed', rfl, hBefore⟩ := begins_of_push? hRange hCount hPush hBegins
    exact ⟨n, rest, rfl, hBefore, by rw [hCount, hOwed', tail, List.cons_append]⟩

theorem Partial.not_completes_nil (h : p.owed ≠ 0) : ¬p.Completes [] cs := by
  rintro ⟨n, rest, -, -, hBytes⟩
  obtain ⟨count, hOwed⟩ := Nat.exists_eq_succ_of_ne_zero h
  rw [hOwed] at hBytes
  cases hBytes

theorem map_eq_ok_iff {ε α β : Type} {f : α → β} {x : Except ε α} {y : β} :
    x.map f = .ok y ↔ ∃ a, x = .ok a ∧ f a = y := by
  cases x <;> simp [Except.map]

/-- Bytes are read as the characters that they encode, and no others are. Inside a sequence they are those
that complete it and go on with characters. -/
theorem decodeFrom_eq_ok_iff (index : Nat) (bytes : List UInt8) (cs : List Char) :
    (decodeFrom index none bytes = .ok cs ↔ bytes.map UInt8.toNat = encodeAll cs) ∧
      ∀ p : Partial, p.InRange → p.owed ≠ 0 →
        (decodeFrom index (some p) bytes = .ok cs ↔ p.Completes (bytes.map UInt8.toNat) cs) := by
  induction bytes generalizing index cs with
  | nil =>
    constructor
    · rw [List.map_nil, eq_comm (a := []), encodeAll_eq_nil_iff, decodeFrom, Except.ok.injEq, eq_comm]
    · intro p _ hOwed
      exact ⟨nofun, fun h => absurd h (Partial.not_completes_nil hOwed)⟩
  | cons b bytes ih =>
    -- A sequence that owes nothing gives a character; one that owes more is read on.
    have hResume : ∀ (p : Partial) (next : Nat), p.InRange →
        ((if p.owed = 0 then (decodeFrom next none bytes).map (Char.ofNat p.bits :: ·)
          else decodeFrom index (some p) bytes) = .ok cs ↔ p.Completes (bytes.map UInt8.toNat) cs) := by
      intro p next hRange
      split
      · next hOwed => simp only [map_eq_ok_iff, (ih next _).1, Partial.completes_of_owed_zero hOwed]
      · next hOwed => exact (ih index cs).2 p hRange hOwed
    constructor
    · rw [List.map_cons, cons_eq_encodeAll_iff, decodeFrom]
      cases hLead : lead? b.toNat with
      | none => simp
      | some p => simpa using hResume p _ (inRange_of_lead? hLead)
    · intro p hRange hOwed
      rw [List.map_cons, Partial.completes_cons_iff hRange hOwed, decodeFrom]
      cases hPush : p.push? b.toNat with
      | none => simp
      | some q => simpa using hResume q _ (Partial.inRange_of_push? hPush)

theorem decode_eq_ok_iff {bytes : List UInt8} {cs : List Char} :
    decode bytes = .ok cs ↔ bytes.map UInt8.toNat = encodeAll cs :=
  (decodeFrom_eq_ok_iff 0 bytes cs).1

theorem map_toNat_utf8EncodeChar (c : Char) : (String.utf8EncodeChar c).map UInt8.toNat = encode c.toNat := by
  have hValid : c.toNat.isValidChar := c.valid
  unfold Nat.isValidChar at hValid
  simp only [String.utf8EncodeChar, encode, Char.toNat_val]
  split_ifs <;> simp <;> omega

/-- Bytes are read as a text exactly if they are its UTF-8. -/
theorem decode_eq_ok_toList_iff {bytes : List UInt8} {t : String} :
    decode bytes = .ok t.toList ↔ bytes.toByteArray = t.toUTF8 := by
  have hInjective : ∀ x y : UInt8, x.toNat = y.toNat → x = y := fun _ _ => UInt8.toNat_inj.mp
  rw [String.toUTF8_eq_toByteArray, ← String.utf8Encode_toList, List.utf8Encode, List.toByteArray_inj,
    ← List.map_inj_right hInjective, List.map_flatMap, decode_eq_ok_iff]
  simp only [map_toNat_utf8EncodeChar, encodeAll]

-- Two bytes for a number below 128, a surrogate, a number past the last character, a sequence that is cut
-- short and a byte that nothing began are the UTF-8 of no text.
example : [[0xC0, 0x80], [0xED, 0xA0, 0x80], [0xF4, 0x90, 0x80, 0x80], [0xC3], [0x80]].all
    (fun bytes => !(decode bytes).isOk) = true := by
  decide

end ScriptedDb.Text.Utf8
