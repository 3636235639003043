/-
Sets of characters as sorted ranges of code points.

The sets of the Unicode standard have hundreds of ranges, so they are written as text: for
each range the distance from the end of the one before it and its own length less one, in
base thirty-six.
-/

namespace ModuleLoader.Text

/-- A set of characters: its ranges in order, ends included. -/
structure CharSet where
  ranges : Array (Nat × Nat)

namespace CharSet

/-- The value of a base thirty-six digit. -/
def digit (c : Char) : Nat :=
  if c.isDigit then c.toNat - '0'.toNat else c.toNat - 'a'.toNat + 10

/-- The numbers between blanks. -/
def numbers (text : String) : List Nat :=
  (text.toList.foldl (fun (done, open?) c =>
    if c = ' ' then
      match open? with
      | some n => (n :: done, none)
      | none => (done, none)
    else (done, some (open?.getD 0 * 36 + digit c))) (([] : List Nat), (none : Option Nat)))
  |> fun (done, open?) => (open?.toList ++ done).reverse

/-- Ranges from distances and lengths. -/
def rangesFrom (position : Nat) (acc : Array (Nat × Nat)) : List Nat → Array (Nat × Nat)
  | gap :: more :: rest =>
    rangesFrom (position + gap + more + 1) (acc.push (position + gap, position + gap + more)) rest
  | _ => acc

/-- The set that a text of distances and lengths describes. -/
def ofText (text : String) : CharSet := ⟨rangesFrom 0 #[] (numbers text)⟩

/-- The index of the last range that starts at or before `n`, between `lo` and `lo + size`. -/
def search (ranges : Array (Nat × Nat)) (n lo size : Nat) : Nat :=
  if size ≤ 1 then lo
  else
    let half := size / 2
    match ranges[lo + half]? with
    | some (first, _) =>
      if first ≤ n then search ranges n (lo + half) (size - half) else search ranges n lo half
    | none => search ranges n lo half
termination_by size
decreasing_by all_goals omega

/-- Whether a code point lies in one of the ranges. -/
def containsCode (set : CharSet) (n : Nat) : Bool :=
  match set.ranges[search set.ranges n 0 set.ranges.size]? with
  | some (first, last) => first ≤ n && n ≤ last
  | none => false

/-- Whether a character belongs to the set. -/
def contains (set : CharSet) (c : Char) : Bool := set.containsCode c.toNat

end CharSet

end ModuleLoader.Text
