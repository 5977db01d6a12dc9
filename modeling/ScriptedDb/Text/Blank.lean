namespace ScriptedDb.Text

/-- The characters with the Unicode property `White_Space`. -/
def isBlank (c : Char) : Bool :=
  let n := c.toNat
  (9 ≤ n && n ≤ 13) || n == 32 || n == 0x85 || n == 0xA0 || n == 0x1680
    || (0x2000 ≤ n && n ≤ 0x200A) || n == 0x2028 || n == 0x2029 || n == 0x202F || n == 0x205F
    || n == 0x3000

def trim (cs : List Char) : List Char :=
  ((cs.dropWhile isBlank).reverse.dropWhile isBlank).reverse

/-- Put a word before others, unless it is empty. -/
def consWord (word : List Char) (rest : List (List Char)) : List (List Char) :=
  if word.isEmpty then rest else word :: rest

/-- The run of characters that begins the text, which is empty before a blank, and the words
after it. -/
def scanWords : List Char → List Char × List (List Char)
  | [] => ([], [])
  | c :: cs =>
    let (word, rest) := scanWords cs
    if isBlank c then ([], consWord word rest) else (c :: word, rest)

/-- The maximal runs of characters that are not blank, in order. -/
def words (cs : List Char) : List (List Char) :=
  consWord (scanWords cs).1 (scanWords cs).2

/-- The line with one more word, after a space unless nothing is written yet. -/
def appendWord (line word : List Char) : List Char :=
  (if line.isEmpty then line else line ++ [' ']) ++ word

def oneLine (cs : List Char) : List Char :=
  (words cs).foldl appendWord []

end ScriptedDb.Text
