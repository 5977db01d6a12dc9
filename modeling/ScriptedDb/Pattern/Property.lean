import ScriptedDb.Pattern.CharClass
import ScriptedDb.Pattern.Table.Age
import ScriptedDb.Pattern.Table.BinaryProperty
import ScriptedDb.Pattern.Table.GeneralCategory
import ScriptedDb.Pattern.Table.GraphemeBreak
import ScriptedDb.Pattern.Table.Script
import ScriptedDb.Pattern.Table.ScriptExtension
import ScriptedDb.Pattern.Table.SentenceBreak
import ScriptedDb.Pattern.Table.WordBreak

/-! Names of properties are compared without case, blanks, hyphens, underscores, characters past
ASCII and a leading "is". -/

namespace ScriptedDb.Pattern

/-- A name as it is compared. "Is" is left out only at the very start, and kept before a lone "c",
which is no general category then. -/
def plainName (name : List Char) : String :=
  let plain (cs : List Char) : List Char :=
    (cs.filter fun c => c != ' ' && c != '-' && c != '_' && c.toNat < 128).map Char.toLower
  match name with
  | i :: s :: rest =>
    if i.toLower = 'i' ∧ s.toLower = 's' then
      if plain rest = ['c'] then "isc" else String.ofList (plain rest)
    else String.ofList (plain name)
  | _ => String.ofList (plain name)

def lookupName (table : List (String × List String)) (name : String) : Option CharClass :=
  (table.find? fun entry => (entry.1.splitOn " ").contains name).map fun entry => .ofHex entry.2

/-- A general category, or one of three sets that are named like one. -/
def generalCategory? (name : String) : Option CharClass :=
  if name = "any" then some .all
  else if name = "ascii" then some (.ofHex ["0-7F"])
  else if name = "assigned" then
    (lookupName generalCategories "cn").map Text.CodeRanges.complement
  else lookupName generalCategories name

/-- The characters that were assigned in a version or before it. -/
def age? (name : String) : Option CharClass :=
  match ages.findIdx? fun entry => (entry.1.splitOn " ").contains name with
  | some i => some (.ofSpans (((ages.take (i + 1)).flatMap fun entry =>
      (Text.CodeRanges.ofHex entry.2).spans.toList)))
  | none => none

/-- The set with a name of its own. Three short names stand for a general category although a
property has the same one. -/
def namedSet? (name : List Char) : Option CharClass :=
  let name := plainName name
  let binary :=
    if name = "cf" ∨ name = "sc" ∨ name = "lc" then none else lookupName binaryProperties name
  match binary with
  | some set => some set
  | none =>
    match generalCategory? name with
    | some set => some set
    | none => lookupName scripts name

def valuedSet? (property value : List Char) : Option CharClass :=
  let value := plainName value
  match plainName property with
  | "gc" | "generalcategory" => generalCategory? value
  | "sc" | "script" => lookupName scripts value
  | "scx" | "scriptextensions" => lookupName scriptExtensions value
  | "age" => age? value
  | "gcb" | "graphemeclusterbreak" => lookupName graphemeBreaks value
  | "wb" | "wordbreak" => lookupName wordBreaks value
  | "sb" | "sentencebreak" => lookupName sentenceBreaks value
  | _ => none

def splitAt? (separator : List Char) : List Char → Option (List Char × List Char)
  | [] => none
  | c :: cs =>
    if separator.isPrefixOf (c :: cs) then some ([], (c :: cs).drop separator.length)
    else (splitAt? separator cs).map fun (before, after) => (c :: before, after)

/-- The set that the text between the braces of a property names, and whether the property must
differ from the value. -/
def propertyOf? (name : List Char) : Option (Bool × CharClass) :=
  match splitAt? ['!', '='] name with
  | some (property, value) => (valuedSet? property value).map (true, ·)
  | none =>
    match (splitAt? [':'] name).or (splitAt? ['='] name) with
    | some (property, value) => (valuedSet? property value).map (false, ·)
    | none => (namedSet? name).map (false, ·)

end ScriptedDb.Pattern
