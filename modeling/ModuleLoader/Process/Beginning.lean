import ModuleLoader.Process.Call

/-
The beginning of what is read.
-/

namespace ModuleLoader.Process

open Text

/-- How much of a text is its beginning. -/
inductive Extent where
  | lines (count : Nat)
  | bytes (count : Nat)

/-- The first lines of some bytes, each with its end. -/
def takeLines : Nat → List UInt8 → List UInt8
  | 0, _ => []
  | _, [] => []
  | count + 1, b :: rest =>
    if b = 10 then b :: takeLines count rest else b :: takeLines (count + 1) rest

/-- The beginning of some bytes. -/
def Extent.of : Extent → List UInt8 → List UInt8
  | .lines count, text => takeLines count text
  | .bytes count, text => text.take count

/-- Reads the words of `head`: the extent, ten lines unless one is asked for, and the names.
A count stands in the word of its letter or in the next one. -/
def headWords : List (List Char) → Extent × List (List Char)
  | ['-', 'n'] :: count :: rest =>
    let (_, names) := headWords rest
    (.lines ((String.ofList count).toNat?.getD 0), names)
  | ['-', 'c'] :: count :: rest =>
    let (_, names) := headWords rest
    (.bytes ((String.ofList count).toNat?.getD 0), names)
  | word :: rest =>
    let (extent, names) := headWords rest
    match word with
    | '-' :: 'n' :: count => (.lines ((String.ofList count).toNat?.getD 0), names)
    | '-' :: 'c' :: count => (.bytes ((String.ofList count).toNat?.getD 0), names)
    | ['-'] => (extent, word :: names)
    | '-' :: count => (.lines ((String.ofList count).toNat?.getD 0), names)
    | _ => (extent, word :: names)
  | [] => (.lines 10, [])

/-- The program `head`. -/
def head (call : Call) : Reply :=
  let (extent, names) := headWords call.arguments
  let names := if names.isEmpty then [['-']] else names
  let reply := names.foldl (fun reply name =>
    match operand call "head" name with
    | .ok bytes => { reply with output := reply.output ++ extent.of bytes }
    | .error text => { reply with errors := reply.errors ++ text, status := 1 }) ({} : Reply)
  { reply with drains := names.contains ['-'] }

end ModuleLoader.Process
