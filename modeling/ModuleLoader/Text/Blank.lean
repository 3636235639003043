/-
White space, words and lines.

White space is the Unicode property of that name: twenty-five characters, of which six are
ASCII.  A line ends at a line feed or at a carriage return with a line feed; a last line
need not be ended.
-/

namespace ModuleLoader.Text

/-- The ranges of the Unicode property White_Space. -/
def blankRanges : List (Nat × Nat) :=
  [(0x9, 0xD), (0x20, 0x20), (0x85, 0x85), (0xA0, 0xA0), (0x1680, 0x1680), (0x2000, 0x200A),
   (0x2028, 0x2029), (0x202F, 0x202F), (0x205F, 0x205F), (0x3000, 0x3000)]

/-- A white space character. -/
def isBlank (c : Char) : Bool :=
  blankRanges.any fun (first, last) => first ≤ c.toNat && c.toNat ≤ last

/-- The text without the white space at its beginning. -/
def trimStart (cs : List Char) : List Char := cs.dropWhile isBlank

/-- The text without the white space at its end. -/
def trimEnd (cs : List Char) : List Char := (cs.reverse.dropWhile isBlank).reverse

/-- The text without the white space around it. -/
def trim (cs : List Char) : List Char := trimEnd (trimStart cs)

/-- The stretches without white space. -/
def words (cs : List Char) : List (List Char) := go [] cs
where
  /-- The word read so far is held backwards. -/
  go (word : List Char) : List Char → List (List Char)
    | [] => if word.isEmpty then [] else [word.reverse]
    | c :: r =>
      if isBlank c then (if word.isEmpty then go [] r else word.reverse :: go [] r)
      else go (c :: word) r

/-- A line without the carriage return that belongs to its end. -/
def dropReturn (line : List Char) : List Char :=
  if line.getLast? = some '\r' then line.dropLast else line

/-- The lines of a text. -/
def lines (cs : List Char) : List (List Char) := go [] cs
where
  /-- The line read so far is held backwards. -/
  go (line : List Char) : List Char → List (List Char)
    | [] => if line.isEmpty then [] else [line.reverse]
    | c :: r => if c = '\n' then dropReturn line.reverse :: go [] r else go (c :: line) r

end ModuleLoader.Text
