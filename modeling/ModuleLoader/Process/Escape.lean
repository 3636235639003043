import ModuleLoader.Text.Utf8

/-
Bytes spelled with a backslash.

A backslash stands before a letter for a control character, before up to three octal digits
for a byte, and before another backslash.  Before anything else it stands for itself.
-/

namespace ModuleLoader.Process

open Text

/-- The escapes of a single letter. -/
def letterEscapes : List (Char × UInt8) :=
  [('a', 7), ('b', 8), ('t', 9), ('n', 10), ('v', 11), ('f', 12), ('r', 13), ('\\', 92)]

/-- The digit that a character is in octal. -/
def octalDigit? (c : Char) : Option Nat :=
  if '0' ≤ c && c ≤ '7' then some (c.toNat - '0'.toNat) else none

/-- At most `limit` octal digits: the byte that they spell and what follows. -/
def octal (limit value : Nat) : List Char → UInt8 × List Char
  | [] => (UInt8.ofNat value, [])
  | c :: rest =>
    match limit, octalDigit? c with
    | limit + 1, some digit => octal limit (value * 8 + digit) rest
    | _, _ => (UInt8.ofNat value, c :: rest)

/-- What follows a backslash: the byte that it spells and the rest.  A backslash before a
character that spells nothing stands for itself. -/
def escape : List Char → UInt8 × List Char
  | [] => (92, [])
  | c :: rest =>
    if (octalDigit? c).isSome then octal 3 0 (c :: rest)
    else
      match letterEscapes.lookup c with
      | some byte => (byte, rest)
      | none => (92, c :: rest)

theorem length_octal (limit value : Nat) (cs : List Char) :
    (octal limit value cs).2.length ≤ cs.length := by
  induction cs generalizing limit value with
  | nil => simp [octal]
  | cons c rest ih =>
    unfold octal
    split
    · exact Nat.le_succ_of_le (ih _ _)
    · simp

theorem length_escape (cs : List Char) : (escape cs).2.length ≤ cs.length := by
  unfold escape
  split
  · simp
  · split
    · exact length_octal _ _ _
    · split <;> simp

/-- The text without a zero that stands before an octal digit. -/
def dropZero : List Char → List Char
  | '0' :: d :: rest => if (octalDigit? d).isSome then d :: rest else '0' :: d :: rest
  | cs => cs

theorem length_dropZero (cs : List Char) : (dropZero cs).length ≤ cs.length := by
  unfold dropZero
  split
  · split <;> simp
  · simp

/-- The bytes of a text with its escapes resolved, and whether `\c` ended it early.  A zero
may stand before three octal digits. -/
def unescape : List Char → List UInt8 × Bool
  | [] => ([], false)
  | '\\' :: 'c' :: _ => ([], true)
  | '\\' :: rest =>
    let (bytes, ended) := unescape (escape (dropZero rest)).2
    ((escape (dropZero rest)).1 :: bytes, ended)
  | c :: rest =>
    let (bytes, ended) := unescape rest
    (String.utf8EncodeChar c ++ bytes, ended)
termination_by cs => cs.length
decreasing_by
  · have := length_escape (dropZero rest)
    have := length_dropZero rest
    simp only [List.length_cons]
    omega
  · simp

end ModuleLoader.Process
