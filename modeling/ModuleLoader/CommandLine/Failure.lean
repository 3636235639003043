import ModuleLoader.Settings
import ModuleLoader.LoadError

/-
Why the program gives up, in words.

A failure has a message and a chain of causes, the last of which is what lies behind all of
it.  A single cause is indented by four; several are numbered.
-/

namespace ModuleLoader.CommandLine

open Text

/-- Why settings could not be read from a file. -/
inductive ConfigFailure where
  | unreadable (cause : IoError)
  | notToml
  | invalid (cause : Settings.Invalid)
  deriving Repr, DecidableEq

/-- Why the program gives up. -/
inductive Failure where
  | config (path : String) (cause : ConfigFailure)
  | noArchive (path : String)
  | archive (path : String) (cause : IoError)
  | noResources (path : String)
  | bundle (path : String) (cause : IoError)
  | noCompiler
  | noRuntime
  | notFound (specifier : String)
  | load (cause : LoadError)
  | target (path : String) (cause : IoError)
  deriving Repr, DecidableEq

namespace Failure

/-- What is wrong. -/
def message : Failure → String
  | config path _ => s!"failed to load config {path}"
  | noArchive path => s!"archive directory not found: {path}"
  | archive path _ => s!"failed to read archive {path}"
  | noResources path => s!"resources must be a directory or a .zip/.jar bundle: {path}"
  | bundle path _ => s!"failed to open bundle {path}"
  | noCompiler => "--compile-with needs a command"
  | noRuntime => "--runtime needs a command"
  | notFound specifier => s!"cannot resolve {specifier}"
  | load cause => cause.message
  | target path _ => s!"failed to write {path}"

/-- The complaint about a text that is no TOML document. -/
def tomlComplaint : String := "TOML parse error"

/-- What lies behind it, the nearest cause first. -/
def causes : Failure → List String
  | config _ (.unreadable cause) =>
    ["Failed to read config file: " ++ cause.message, cause.message]
  | config _ .notToml => ["Failed to parse config: " ++ tomlComplaint, tomlComplaint]
  | config _ (.invalid cause) => ["Invalid config: " ++ cause.message]
  | archive _ cause => [cause.message]
  | bundle _ cause => [cause.message]
  | target _ cause => [cause.message]
  | load (.io _ cause) => [cause.message]
  | load (.execution _ cause) => [cause]
  | _ => []

/-- Text whose lines behind the first are indented. -/
def indentRest (indent : List Char) (text : List Char) : List Char :=
  text.flatMap fun c => if c = '\n' then '\n' :: indent else [c]

/-- A cause among several: its number in a column of five, and the text. -/
def numbered (number : Nat) (cause : String) : List Char :=
  let digits := (toString number).toList
  '\n' :: List.replicate (5 - digits.length) ' ' ++ digits ++ [':', ' '] ++
    indentRest (List.replicate 7 ' ') cause.toList

/-- The causes as they are listed. -/
def listing : List String → List Char
  | [] => []
  | [cause] => "\n\nCaused by:\n    ".toList ++ indentRest (List.replicate 4 ' ') cause.toList
  | causes => "\n\nCaused by:".toList ++
      (causes.zipIdx.flatMap fun (cause, number) => numbered number cause)

/-- The failure as it is reported. -/
def report (failure : Failure) : String :=
  "Error: " ++ failure.message ++ String.ofList (listing failure.causes) ++ "\n"

end Failure

end ModuleLoader.CommandLine
