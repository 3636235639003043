import ModuleLoader.Process.Beginning
import ModuleLoader.Process.Counting
import ModuleLoader.Process.Transliteration
import ModuleLoader.Process.Writing

/-
The small programs by name.
-/

namespace ModuleLoader.Process

open Text

/-- The program `cat`. -/
def cat (call : Call) : Reply :=
  let names := call.arguments.filter fun name => name ≠ ['-', 'u'] && name ≠ ['-', '-']
  let names := if names.isEmpty then [['-']] else names
  let reply := names.foldl (fun reply name =>
    match operand call "cat" name with
    | .ok bytes => { reply with output := reply.output ++ bytes }
    | .error text => { reply with errors := reply.errors ++ text, status := 1 }) ({} : Reply)
  let closing := if names.contains ['-'] && call.input.isNone then
    bytesOf "cat: closing standard input: Bad file descriptor\n" else []
  { reply with errors := reply.errors ++ closing, drains := names.contains ['-'] }

/-- The tools that are programs of their own. -/
def tools : List (String × (Call → Reply)) :=
  [("cat", cat), ("echo", echo), ("head", head), ("printf", printf), ("tr", tr), ("wc", wc),
   ("sleep", fun _ => {}), ("true", fun _ => {}), ("false", fun _ => { status := 1 })]

end ModuleLoader.Process
