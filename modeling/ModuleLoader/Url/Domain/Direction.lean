import ModuleLoader.Text.CodeTable
import ModuleLoader.Url.Domain.DirectionTable

/-
Domain names in scripts of both directions.

Where some label of a name has characters that are written from right to left, every label
has to be readable in one direction: it begins with a letter of that direction, ends with
one or with a number, and holds nothing of the other direction.
-/

namespace ModuleLoader.Url.Direction

open Text

/-- What matters about the direction of a character. -/
inductive Kind where
  | left
  | right
  | number
  | arabicNumber
  | neutral
  | attached
  deriving Repr, DecidableEq

/-- The kinds that tables list, with their tables. -/
def tables : List (Kind × List (Nat × Nat)) :=
  [(.right, CodeTable.ranges rightText), (.arabicNumber, CodeTable.ranges arabicNumberText),
   (.number, CodeTable.ranges numberText), (.neutral, CodeTable.ranges neutralText),
   (.attached, CodeTable.ranges attachedText)]

/-- The kind of a character. -/
def kind (n : Nat) : Kind :=
  ((tables.find? fun (_, table) => CodeTable.holds table n).map Prod.fst).getD .left

/-- Whether a label calls for the check of all labels. -/
def isMixed (label : List Nat) : Bool :=
  label.any fun n => kind n = .right || kind n = .arabicNumber

/-- The kind of the last character that is not attached to another. -/
def lastKind? (kinds : List Kind) : Option Kind := kinds.reverse.find? (· ≠ .attached)

/-- Whether a label can be read in one direction. -/
def isReadable (label : List Nat) : Bool :=
  let kinds := label.map kind
  match kinds.head? with
  | none => true
  | some .right =>
    !kinds.contains .left && !(kinds.contains .number && kinds.contains .arabicNumber) &&
      (lastKind? kinds).any fun k => k = .right || k = .number || k = .arabicNumber
  | some .left =>
    !kinds.contains .right && !kinds.contains .arabicNumber &&
      (lastKind? kinds).any fun k => k = .left || k = .number
  | some _ => false

/-- Whether the labels of a name can be read, if there is reason to ask. -/
def areReadable (labels : List (List Nat)) : Bool :=
  !labels.any isMixed || labels.all isReadable

end ModuleLoader.Url.Direction
