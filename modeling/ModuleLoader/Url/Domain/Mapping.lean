import ModuleLoader.Text.CodeTable
import ModuleLoader.Url.Domain.MappingTable

/-
The characters of domain names.

Names that differ only in case or in the width of letters are one name, so every character
is replaced by the ones that stand for it; some are dropped, and some may not occur.
-/

namespace ModuleLoader.Url

open Text

/-- One entry of the table of replacements. -/
structure Replacement where
  first : Nat
  count : Nat
  /-- How far apart the characters of the entry are. -/
  stride : Nat
  target : List Nat

namespace Replacement

/-- Reads an entry. -/
def ofEquation (left right : List Char) : Replacement :=
  let target := CodeTable.sequence right
  match cut? '+' left with
  | none => ⟨CodeTable.number left, 1, 1, target⟩
  | some (first, count) =>
    let every := count.getLast? = some '/'
    ⟨CodeTable.number first, CodeTable.number (if every then count.dropLast else count),
      if every then 2 else 1, target⟩

/-- Whether an entry is about a character. -/
def covers (r : Replacement) (n : Nat) : Bool :=
  r.first ≤ n && n < r.first + r.count * r.stride && (n - r.first) % r.stride = 0

/-- What an entry replaces a character by. -/
def apply (r : Replacement) (n : Nat) : List Nat :=
  match r.target with
  | [t] => [t + (n - r.first)]
  | target => target

end Replacement

/-- The replacements of characters outside ASCII. -/
def replacements : List Replacement :=
  (CodeTable.equations replacementText).map fun (left, right) => .ofEquation left right

/-- The characters outside ASCII that may not occur. -/
def forbidden : List (Nat × Nat) := CodeTable.ranges forbiddenText

/-- What a character is replaced by; nothing if it may not occur. -/
def replacement? (n : Nat) : Option (List Nat) :=
  if n < 0x80 then some [(Char.ofNat n).toLower.toNat]
  else
    match replacements.find? (·.covers n) with
    | some r => some (r.apply n)
    | none => if CodeTable.holds forbidden n then none else some [n]

/-- Whether a character stands for itself. -/
def isSettled (n : Nat) : Bool := replacement? n = some [n]

end ModuleLoader.Url
