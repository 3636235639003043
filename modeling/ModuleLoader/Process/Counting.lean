import ModuleLoader.Process.Call

/-
Counting lines, words and bytes.
-/

namespace ModuleLoader.Process

open Text

/-- Lines, words, characters and bytes; every byte is a character. -/
structure Count where
  lines : Nat := 0
  words : Nat := 0
  characters : Nat := 0
  bytes : Nat := 0

/-- The words of some bytes: stretches between white space in which something is printed. -/
def countWords (inside : Bool) : List UInt8 → Nat
  | [] => if inside then 1 else 0
  | b :: rest =>
    if isSpaceByte b then (if inside then 1 else 0) + countWords false rest
    else countWords (inside || isPrinted b) rest

/-- Counts some bytes. -/
def Count.of (bytes : List UInt8) : Count :=
  ⟨bytes.count 10, countWords false bytes, bytes.length, bytes.length⟩

/-- The counts of two texts together. -/
def Count.add (a b : Count) : Count :=
  ⟨a.lines + b.lines, a.words + b.words, a.characters + b.characters, a.bytes + b.bytes⟩

/-- The counts that the letters ask for, in the order in which they are always written. -/
def Count.chosen (letters : List Char) (count : Count) : List Nat :=
  (if letters.contains 'l' then [count.lines] else []) ++
    (if letters.contains 'w' then [count.words] else []) ++
    (if letters.contains 'm' then [count.characters] else []) ++
    (if letters.contains 'c' then [count.bytes] else [])

/-- A line of counts in columns of one width, with the name that was counted. -/
def countLine (width : Nat) (name : Option (List Char)) (counts : List Nat) : List UInt8 :=
  let columns := counts.map fun n => padded width false 32 (bytesOf (toString n))
  (List.intersperse [32] columns).flatten ++
    (name.elim [] fun name => 32 :: Utf8.encode name) ++ [10]

/-- The long names of the options of `wc`. -/
def countOption? (word : List Char) : Option (List Char) :=
  match word with
  | ['-'] => none
  | '-' :: '-' :: name =>
    ([("bytes", 'c'), ("chars", 'm'), ("lines", 'l'), ("words", 'w')].find?
      fun (long, _) => long.toList = name).map fun (_, letter) => [letter]
  | '-' :: letters => if letters.all fun c => "clmw".toList.contains c then some letters else none
  | _ => none

/-- The program `wc`.  Counts of standard input stand in columns of seven, counts of files
in columns as wide as their size in all; a single count stands alone. -/
def wc (call : Call) : Reply :=
  let letters := (call.arguments.filterMap countOption?).flatten
  let letters := if letters.isEmpty then "lwc".toList else letters
  let names := call.arguments.filter fun word => (countOption? word).isNone
  let inputs := if names.isEmpty then [['-']] else names
  let results := inputs.map fun name => (name, operand call "wc" name)
  let counted := results.filterMap fun (name, result) =>
    result.toOption.map fun bytes => (name, Count.of bytes)
  let total := counted.foldl (fun (sum : Count) entry => sum.add entry.2) {}
  let digits := (toString total.bytes).length
  let single := inputs.length = 1 && (total.chosen letters).length = 1
  let width := if single then 1 else if inputs.contains ['-'] then max 7 digits else digits
  let lines := counted.map fun (name, count) =>
    countLine width (if names.isEmpty then none else some name) (count.chosen letters)
  let lines := if 1 < inputs.length then
    lines ++ [countLine width (some "total".toList) (total.chosen letters)] else lines
  let faults := results.filterMap fun (_, result) =>
    match result with
    | .error text => some text
    | .ok _ => none
  { output := lines.flatten
    errors := faults.flatten
    status := if faults.isEmpty then 0 else 1
    drains := inputs.contains ['-'] }

end ModuleLoader.Process
