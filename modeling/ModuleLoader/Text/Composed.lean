import ModuleLoader.Text.CodeTable
import ModuleLoader.Text.MarkTable

/-
The composed form of a text.

A text that looks the same can be written in several ways: a letter with an accent is one
character, or a letter and a mark.  The composed form takes every character apart, brings
the marks behind a character into the order of the places at which they stand, and puts
together what can be put together.
-/

namespace ModuleLoader.Text.Composed

/-- The combining marks. -/
def marks : List (Nat × Nat) := CodeTable.ranges markText

/-- The places of marks. -/
def places : List ((Nat × Nat) × Nat) :=
  (CodeTable.equations placeText).map fun (range, place) =>
    (CodeTable.range range, CodeTable.number place)

/-- The pairs of characters that are written as one. -/
def pairs : List ((Nat × Nat) × Nat) :=
  (CodeTable.equations compositionText).filterMap fun (left, right) =>
    match CodeTable.sequence left with
    | [a, b] => some ((a, b), CodeTable.number right)
    | _ => none

/-- Whether a character is a combining mark. -/
def isMark (n : Nat) : Bool := CodeTable.holds marks n

/-- The place at which a mark stands; zero for everything else. -/
def place (n : Nat) : Nat :=
  if n < 0x300 then 0
  else ((places.find? fun ((first, last), _) => first ≤ n && n ≤ last).map Prod.snd).getD 0

/-! ### Syllables of Hangul are composed by arithmetic -/

/-- The first syllable, and the first consonant, vowel and final consonant. -/
def syllable : Nat := 0xAC00
def leading : Nat := 0x1100
def vowel : Nat := 0x1161
def trailing : Nat := 0x11A7

/-- The parts of a syllable. -/
def syllableParts (n : Nat) : List Nat :=
  let index := n - syllable
  let final := index % 28
  [leading + index / 588, vowel + index % 588 / 28] ++ (if final = 0 then [] else [trailing + final])

/-- The syllable that two parts make. -/
def syllableOf? (a b : Nat) : Option Nat :=
  if leading ≤ a ∧ a < leading + 19 ∧ vowel ≤ b ∧ b < vowel + 21 then
    some (syllable + (a - leading) * 588 + (b - vowel) * 28)
  else if syllable ≤ a ∧ a < syllable + 11172 ∧ (a - syllable) % 28 = 0 ∧
      trailing < b ∧ b < trailing + 28 then
    some (a + (b - trailing))
  else none

/-! ### Taking apart and putting together -/

/-- The characters of which a character is composed.  No character is composed of more than
a few layers, which `layers` bounds. -/
def parts : (layers : Nat) → Nat → List Nat
  | 0, n => [n]
  | layers + 1, n =>
    if n < 0xC0 then [n]
    else if syllable ≤ n ∧ n < syllable + 11172 then syllableParts n
    else
      match pairs.find? fun entry => entry.2 = n with
      | some ((a, b), _) => parts layers a ++ [b]
      | none => [n]

/-- Inserts a mark behind those whose place is not greater. -/
def insertMark (mark : Nat) : List Nat → List Nat
  | [] => [mark]
  | other :: rest =>
    if place other ≤ place mark then other :: insertMark mark rest else mark :: other :: rest

/-- Brings marks into order; `run` are the marks since the last character that is none. -/
def order (run : List Nat) : List Nat → List Nat
  | [] => run
  | n :: rest => if place n = 0 then run ++ n :: order [] rest else order (insertMark n run) rest

/-- The character that two others make. -/
def pair? (a b : Nat) : Option Nat :=
  match syllableOf? a b with
  | some n => some n
  | none => (pairs.find? fun entry => entry.1 = (a, b)).map Prod.snd

/-- Puts together what can be put together behind a character `start`.  `skipped` are the
marks that stay between it and what follows, the last one first. -/
def join (start : Nat) (skipped : List Nat) : List Nat → List Nat
  | [] => start :: skipped.reverse
  | n :: rest =>
    let free := match skipped with
      | [] => true
      | last :: _ => place last ≠ 0 && place last < place n
    match (if free then pair? start n else none) with
    | some composed => join composed skipped rest
    | none =>
      if place n = 0 then start :: skipped.reverse ++ join n [] rest
      else join start (n :: skipped) rest

/-- The composed form of a text. -/
def compose (text : List Nat) : List Nat :=
  let apart := order [] (text.flatMap (parts 4))
  let marks := apart.takeWhile fun n => place n ≠ 0
  match apart.drop marks.length with
  | [] => marks
  | start :: rest => marks ++ join start [] rest

end ModuleLoader.Text.Composed
