import ScriptedDb.Pattern.Syntax
import ScriptedDb.Text.Utf8.Spans

/-! What the matches of a pattern begin with. A pattern that matches only a few literals is searched
for by these alone. The lists are kept short, so they may tell less than the pattern does. -/

namespace ScriptedDb.Pattern

/-- Bytes that a match begins with. They are complete if they are the whole match. -/
structure Beginning where
  bytes : List Nat
  complete : Bool := true

namespace Beginning

def unfinished (b : Beginning) : Beginning :=
  { b with complete := false }

def cut (count : Nat) (b : Beginning) : Beginning :=
  if count < b.bytes.length then ⟨b.bytes.take count, false⟩ else b

def append (a b : Beginning) : Beginning :=
  { b with bytes := a.bytes ++ b.bytes }

/-- Neighbours with equal bytes are one beginning, complete if all of them are. -/
def mergeEqual (bs : List Beginning) : List Beginning :=
  bs.foldr (fun b merged =>
    match merged with
    | m :: rest =>
      if b.bytes = m.bytes then { b with complete := b.complete && m.complete } :: rest
      else b :: merged
    | [] => [b]) []

/-- Leave out what begins with an earlier entry: a match of the earlier one is preferred. -/
def withoutExtensions (bs : List Beginning) : List Beginning :=
  (bs.foldl (fun kept b =>
    if kept.any fun k => k.bytes.isPrefixOf b.bytes then kept else b :: kept) []).reverse

end Beginning

/-- What all matches of a pattern begin with, those preferred first; `none` if that is not known. -/
abbrev Beginnings := Option (List Beginning)

namespace Beginnings

def entryLimit : Nat := 250

def byteLimit : Nat := 100

/-- How many characters a class may have, and how many rounds of a repetition are followed. -/
def choiceLimit : Nat := 10

def ofEmpty : Beginnings :=
  some [{ bytes := [] }]

/-- Whether nothing that follows is added to any entry. -/
def isSettled (a : Beginnings) : Bool :=
  a.all fun bs => bs.all fun b => !b.complete

def unfinished (a : Beginnings) : Beginnings :=
  a.map fun bs => bs.map Beginning.unfinished

/-- The beginnings of one match and another after it. What follows is not added where the entries
would be too many. -/
def followedBy (a b : Beginnings) : Beginnings :=
  match a, b with
  | none, _ => none
  | some as, none => open? as
  | some as, some bs =>
    if entryLimit < as.length * bs.length then open? as
    else some (trim (Beginning.mergeEqual (as.flatMap (after bs))))
where
  /-- The entries of a list after one of another, which may not be complete. -/
  after (bs : List Beginning) (a : Beginning) : List Beginning :=
    if a.complete then bs.map a.append else [a]
  /-- Keep entries as long as they may be. -/
  trim (bs : List Beginning) : List Beginning :=
    bs.map (Beginning.cut byteLimit)
  /-- Entries after which anything may follow. -/
  open? (as : List Beginning) : Beginnings :=
    if as.any fun a => a.bytes.isEmpty then none else some (trim (as.map Beginning.unfinished))

/-- The beginnings of either of two matches. Where they are too many, they are cut to four bytes. -/
def either (a b : Beginnings) : Beginnings :=
  match a, b with
  | some as, some bs =>
    if as.length + bs.length ≤ entryLimit then some (Beginning.mergeEqual (as ++ bs))
    else
      let as := Beginning.mergeEqual (as.map (Beginning.cut 4))
      let bs := Beginning.mergeEqual (bs.map (Beginning.cut 4))
      if as.length + bs.length ≤ entryLimit then some (Beginning.mergeEqual (as ++ bs)) else none
  | _, _ => none

/-- The beginnings of a match followed by a number of others. -/
def followedByRounds (acc a : Beginnings) : (rounds : Nat) → Beginnings
  | 0 => acc
  | n + 1 => if acc.isSettled then acc else (acc.followedBy a).followedByRounds a n

end Beginnings

namespace Regex

def literalBytes (cs : List Char) : List Nat :=
  cs.flatMap fun c => Text.Utf8.encode c.toNat

mutual

def beginnings : Regex → Beginnings
  | .empty => .ofEmpty
  | .literal cs => some [Beginning.cut Beginnings.byteLimit { bytes := literalBytes cs }]
  | .set _ cls =>
    if Beginnings.choiceLimit < cls.count then none
    else some (cls.codePoints.map fun n => { bytes := Text.Utf8.encode n })
  | .look _ => .ofEmpty
  | .seq parts => partBeginnings parts .ofEmpty
  | .alt branches => branchBeginnings branches (some [])
  | .repeated 0 most greedy body =>
    let once := body.beginnings
    let any := if most = some 1 then once else once.unfinished
    if greedy then any.either .ofEmpty else Beginnings.ofEmpty.either any
  | .repeated least most _ body =>
    let rounds := Beginnings.ofEmpty.followedByRounds body.beginnings
      (min least Beginnings.choiceLimit)
    if most = some least ∧ least ≤ Beginnings.choiceLimit then rounds else rounds.unfinished
  | .group _ body => body.beginnings

def partBeginnings : List Regex → (acc : Beginnings) → Beginnings
  | [], acc => acc
  | r :: rs, acc => if acc.isSettled then acc else partBeginnings rs (acc.followedBy r.beginnings)

def branchBeginnings : List Regex → (acc : Beginnings) → Beginnings
  | [], acc => acc
  | r :: rs, acc => branchBeginnings rs (acc.either r.beginnings)

end

mutual

/-- Whether a pattern takes characters only: it has no condition and no group that captures. -/
def isPlain : Regex → Bool
  | .look _ | .group _ _ => false
  | .seq parts => allPlain parts
  | .alt branches => allPlain branches
  | .repeated _ _ _ body => body.isPlain
  | _ => true

def allPlain : List Regex → Bool
  | [] => true
  | r :: rs => r.isPlain && allPlain rs

end

end Regex

/-- Whether a byte occurs often in texts: common letters, digits and marks, and all bytes past
ASCII. -/
def isCommonByte (b : Nat) : Bool :=
  128 ≤ b || "\n\r (),-./0129:_abcdefghilmnoprstuvxy|".toList.any fun c => c.toNat = b

/-- What two lists have in common at the front. -/
def commonFront : List Nat → List Nat → List Nat
  | a :: as, b :: bs => if a = b then a :: commonFront as bs else []
  | _, _ => []

/-- Shorten the entries of a long list, step by step: for more entries than `limit` only the first
`keep` bytes count. -/
def shorten : (steps : List (Nat × Nat)) → List Beginning → List Beginning
  | [], bs => bs
  | (keep, limit) :: steps, bs =>
    if bs.length ≤ limit then bs
    else shorten steps (Beginning.withoutExtensions (bs.map (Beginning.cut keep)))

/-- Whether a search for some beginnings alone finds the matches. They have to be complete, and not
such that a search for fewer bytes first is faster: for a rare first byte that all begin with, or
for the shortened entries of a long list. -/
def identify (bs : List Beginning) : Bool :=
  match Beginning.withoutExtensions bs with
  | [] => false
  | first :: others =>
    let kept := first :: others
    let front := others.foldl (fun front b => commonFront front b.bytes) first.bytes
    if kept.any fun b => b.bytes.isEmpty || !b.complete then false
    else if 1 < bs.length && front.length ≤ 3 && front.head?.any fun b => !isCommonByte b then
      kept.all fun b => b.bytes.length = 1
    else if 4 < front.length || (1 < front.length && 16 < kept.length) then others.isEmpty
    else
      let short := shorten [(5, 10), (4, 10), (3, 64), (2, 64), (1, 10)] kept
      64 < short.length || short.any (fun b => b.bytes.length ≤ 2) || short.all (·.complete)

def Regex.isFoundByLiterals (r : Regex) : Bool :=
  r.isPlain && r.beginnings.any fun bs => identify (Beginning.mergeEqual bs)

end ScriptedDb.Pattern
