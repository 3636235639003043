import ModuleLoader.Compile.OnDemand
import ModuleLoader.Process.Basic

/-
Compilers that are programs of their own.

The source goes in on standard input and the compiled text comes back on standard output.
If the program fails, what it complains about is read as compiler output: standard error
unless that is blank, else standard output unless that is blank, else how the program ended.
-/

namespace ModuleLoader.Command

open Text

/-- The text that stands for the name of the source in an argument. -/
def placeholder : List Char := "\x7bfile\x7d".toList

/-- The command for one source. -/
def forSource (command : Command) (source : String) : Command :=
  ⟨command.program, command.arguments.map fun argument =>
    String.ofList (replaceAll placeholder source.toList argument.toList)⟩

/-- Whether a text is nothing but white space. -/
def isBlankText (text : List Char) : Bool := text.all isBlank

/-- What a program that failed complains about. -/
def complaint (program : String) (finished : Finished) : String :=
  let errors := Utf8.decodeLossy finished.errors.toList
  let output := Utf8.decodeLossy finished.output.toList
  if !isBlankText errors then String.ofList errors
  else if !isBlankText output then String.ofList output
  else s!"compiler '{program}' failed with " ++ finished.status.text

/-- What a run of the compiler comes to. -/
def verdict (command : Command) (source : String) :
    Except IoError Finished → Except CompilationError String
  | .error e =>
    .error (.ofMessage source (s!"failed to run compiler '{command.program}': " ++ e.message))
  | .ok finished =>
    if finished.status.isSuccess then
      .ok (String.ofList (Utf8.decodeLossy finished.output.toList))
    else .error (.ofOutput source (complaint command.program finished))

/-- The compiler that feeds a source to a program. -/
def compiler {σ : Type} (command : Command) (machine : Machine) : Compiler σ :=
  fun host source => .ask source none fun
    | .error e => .finish host (.error (.ofMessage source e.message))
    | .ok none => .finish host (.error (.ofMessage source s!"cannot find source {source}"))
    | .ok (some found) =>
      .finish host <| verdict command source <|
        machine ((command.forSource source).launch found.artifact.bytes)

end ModuleLoader.Command
