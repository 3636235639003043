import ModuleLoader.Text.Blank
import ModuleLoader.Text.Split

/-
Tables of characters that are written as text.

A table is a text of words between white space.  Characters stand in it as hexadecimal
numbers, so that tables can be read and compared line by line.
-/

namespace ModuleLoader.Text.CodeTable

/-- The value of a hexadecimal digit. -/
def digit (c : Char) : Nat :=
  if c.isDigit then c.toNat - '0'.toNat else c.toNat - 'A'.toNat + 10

/-- The number that hexadecimal digits spell. -/
def number (digits : List Char) : Nat := digits.foldl (fun n c => n * 16 + digit c) 0

/-- The first and the last number of `A-B`, or of `A` alone. -/
def range (word : List Char) : Nat × Nat :=
  match cut? '-' word with
  | some (first, last) => (number first, number last)
  | none => (number word, number word)

/-- The ranges of a table. -/
def ranges (table : String) : List (Nat × Nat) := (words table.toList).map range

/-- Whether one of some ranges holds a number. -/
def holds (table : List (Nat × Nat)) (n : Nat) : Bool :=
  table.any fun (first, last) => first ≤ n && n ≤ last

/-- The numbers of `X.Y.Z`. -/
def sequence (word : List Char) : List Nat :=
  if word.isEmpty then [] else (split '.' word).map number

/-- The two sides of the words of a table. -/
def equations (table : String) : List (List Char × List Char) :=
  (words table.toList).filterMap (cut? '=')

end ModuleLoader.Text.CodeTable
