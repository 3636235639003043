import ModuleLoader.Text.Split
import ModuleLoader.Text.Blank

/-
Compiler diagnostics.

A compiler reports one problem a line, at a place in a file or at none:

    lib/a.ts(4,23): error TS2304: Cannot find name 'x'.
    error TS6053: File 'b.ts' not found.

Lines that begin no diagnostic belong to the one before them as notes.
-/

namespace ModuleLoader

/-- A place in a file. -/
structure Location where
  file : String
  line : Nat
  column : Nat
  deriving Repr, DecidableEq

/-- How grave a diagnostic is. -/
inductive Category where
  | error
  | warning
  | message
  | suggestion
  deriving Repr, DecidableEq

/-- A category as compilers write it. -/
def Category.text : Category → String
  | error => "error"
  | warning => "warning"
  | message => "message"
  | suggestion => "suggestion"

/-- The category that a word names. -/
def Category.ofText? (word : List Char) : Option Category :=
  [error, warning, message, suggestion].find? fun category => category.text.toList = word

/-- One message of a compiler with the lines that belong to it. -/
structure Diagnostic where
  location : Option Location
  category : Category
  code : Option String
  message : String
  notes : List String := []
  deriving Repr, DecidableEq

namespace Diagnostic

open Text

/-- A decimal number below 2³², white space around it and a plus sign before it allowed. -/
def number? (cs : List Char) : Option Nat :=
  let body := trim cs
  let digits := match body with
    | '+' :: rest => rest
    | rest => rest
  if digits.isEmpty || !digits.all Char.isDigit then none
  else
    let n := digits.foldl (fun n c => n * 10 + (c.toNat - '0'.toNat)) 0
    if n < Nat.pow 2 32 then some n else none

/-- `file(line,column): rest`, cut into the place and the rest. -/
def location? (line : List Char) : Option (Location × List Char) := do
  let (head, rest) ← cutAt? "): ".toList line
  let (file, place) ← cutLast? '(' head
  let (row, column) ← cut? ',' place
  let row ← number? row
  let column ← number? column
  if file.isEmpty then none
  return (⟨String.ofList file, row, column⟩, rest)

/-- A code is a word before a colon; without one the whole text is the message. -/
def codeAndMessage (text : List Char) : Option (List Char) × List Char :=
  let plain := (none, (dropStart? ": ".toList text).getD text)
  match cutAt? ": ".toList text with
  | some (code, message) =>
    if code.isEmpty || code.any isBlank then plain else (some code, message)
  | none => plain

/-- The diagnostic that a line begins. -/
def parseChars (line : List Char) : Option Diagnostic := do
  let (location, rest) := match location? line with
    | some (location, rest) => (some location, rest)
    | none => (none, line)
  let (word, rest) ← cut? ' ' rest
  let category ← Category.ofText? word
  let (code, message) := codeAndMessage rest
  return ⟨location, category, code.map String.ofList, String.ofList message, []⟩

/-- The diagnostic that a line begins. -/
def parse (line : String) : Option Diagnostic := parseChars line.toList

/-- A place as it stands before a diagnostic. -/
def locationText (location : Location) : String :=
  s!"{location.file}({location.line},{location.column}): "

/-- The first line of a diagnostic; notes are left out. -/
def text (d : Diagnostic) : String :=
  (d.location.map locationText).getD "" ++ d.category.text ++
    (d.code.map (" " ++ ·)).getD "" ++ ": " ++ d.message

/-- Whether the diagnostic is an error. -/
def isError (d : Diagnostic) : Bool := d.category = .error

end Diagnostic

/-- A compiler's refusal of a source, with its output word for word. -/
structure CompilationError where
  sourceName : String
  output : String
  diagnostics : List Diagnostic := []
  deriving Repr, DecidableEq

namespace CompilationError

open Text

/-- Some compilers put this mark around each message. -/
def sentinel : List Char := "<#>".toList

/-- The output without sentinels and without white space at its end. -/
def cleanOutput (output : List Char) : List Char := trimEnd (replaceAll sentinel [] output)

/-- A line begins a diagnostic or belongs to the last one. -/
def addLine (found : List Diagnostic) (line : List Char) : List Diagnostic :=
  match Diagnostic.parseChars line with
  | some d => d :: found
  | none =>
    match found with
    | last :: rest => { last with notes := last.notes ++ [String.ofList line] } :: rest
    | [] => []

/-- The diagnostics in some lines of output. -/
def diagnosticsOf (lines : List (List Char)) : List Diagnostic :=
  (lines.foldl addLine []).reverse

/-- An error with the diagnostics that the output of a compiler holds. -/
def ofOutput (sourceName output : String) : CompilationError :=
  let output := cleanOutput output.toList
  ⟨sourceName, String.ofList output, diagnosticsOf (lines output)⟩

/-- An error with a plain message. -/
def ofMessage (sourceName message : String) : CompilationError := ⟨sourceName, message, []⟩

/-- Two errors in one, the first before the second. -/
def append (a b : CompilationError) : CompilationError :=
  ⟨a.sourceName ++ ", " ++ b.sourceName, a.output ++ "\n\n" ++ b.output,
    a.diagnostics ++ b.diagnostics⟩

/-- Several errors in one, in order; there is none if there is nothing to merge. -/
def merge : List CompilationError → Option CompilationError
  | [] => none
  | first :: rest => some (rest.foldl append first)

end CompilationError

end ModuleLoader
