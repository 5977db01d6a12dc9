import ScriptedDb.Error

/-! A path is followed name by name from a folder; two dots go up, and above the folder only folders
are known. -/

namespace ScriptedDb

inductive Entry where
  | folder
  | file (bytes : List UInt8)

/-- A folder: its entries and those of the folders below it, each with the names that lead to it,
the latest first. -/
structure Folder where
  entries : List (List String × Entry) := []

namespace Folder

def pathLimit : Nat := 4095

def nameLimit : Nat := 255

/-- The place above another. Above the folder itself there are places too. -/
def above (place : List String) : List String :=
  match place.getLast? with
  | none | some ".." => place ++ [".."]
  | some _ => place.dropLast

def step (place : List String) (name : String) : List String :=
  if name = "" ∨ name = "." then place
  else if name = ".." then above place
  else place ++ [name]

/-- What stands at a place. What leads to an entry is a folder. -/
def entry? (f : Folder) (place : List String) : Option Entry :=
  if place.all (· == "..") then some .folder
  else
    match f.entries.lookup place with
    | some e => some e
    | none => if f.entries.any fun e => place.isPrefixOf e.1 then some .folder else none

def put (f : Folder) (path : String) (e : Entry) : Folder :=
  { entries := ((path.splitOn "/").foldl step [], e) :: f.entries }

def follow (f : Folder) (place : List String) : List String → Except ReadFailure (List UInt8)
  | [] =>
    match f.entry? place with
    | some (.file bytes) => .ok bytes
    | some .folder => .error .isDirectory
    | none => .error .notFound
  | name :: names =>
    match f.entry? place with
    | some .folder =>
      if nameLimit < name.utf8ByteSize then .error .nameTooLong
      else f.follow (step place name) names
    | some (.file _) => .error .notADirectory
    | none => .error .notFound

def read (f : Folder) (path : String) : Except ReadFailure (List UInt8) :=
  if path.toList.contains '\x00' then .error .nulInName
  else if path = "" then .error .notFound
  else if pathLimit < path.utf8ByteSize then .error .nameTooLong
  else f.follow [] (path.splitOn "/")

end Folder

end ScriptedDb
