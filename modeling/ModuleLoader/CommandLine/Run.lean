import ModuleLoader.Archive.Directory
import ModuleLoader.CommandLine.Failure
import ModuleLoader.CommandLine.Request
import ModuleLoader.Compile.WholeArchive
import ModuleLoader.Compile.External
import ModuleLoader.Evaluation

/-
Carrying out what a command line asks for.

The program sees a tree of files, works in one of its directories and starts other programs
on a machine.  It answers with what it writes, its exit code and the files as it leaves
them: nothing on a mistake in the command line but the code two, and the code one with a
report on any other failure.
-/

namespace ModuleLoader.CommandLine

open Text

/-- Where the program runs. -/
structure Surroundings where
  files : FileTree
  directory : FileTree.Location
  machine : Machine

/-- What programs started by this one write to its own output. -/
structure Written where
  output : ByteArray := ByteArray.empty
  errors : ByteArray := ByteArray.empty

/-- What the program leaves behind. -/
structure Result where
  code : Nat := 0
  written : Written := {}
  files : FileTree

namespace Surroundings

/-- The names that lead to a path. -/
def path (here : Surroundings) (text : String) : List String :=
  FileTree.fromRoot here.directory text

/-- The settings in a file, or the defaults. -/
def settings (here : Surroundings) : Option String → Except Failure Settings
  | none => .ok {}
  | some file =>
    match here.files.readText (here.path file) with
    | .error e => .error (.config file (.unreadable e))
    | .ok text =>
      match Settings.parse text with
      | .ok settings => .ok settings
      | .error .notToml => .error (.config file .notToml)
      | .error (.invalid cause) => .error (.config file (.invalid cause))

/-- The archive in a directory. -/
def archive (here : Surroundings) (directory : String) : Except Failure Archive :=
  if !here.files.isDirectory (here.path directory) then .error (.noArchive directory)
  else (Archive.ofDirectory here.files (here.path directory)).mapError (.archive directory)

/-- What stands behind the last dot of the last name of a path; a name that only begins with
a dot has no such part. -/
def ending (path : String) : Option (List Char) :=
  match (FileTree.plainNames (FileTree.names path)).getLast? with
  | none => none
  | some name =>
    if name = ".." then none
    else
      match cutLast? '.' name.toList with
      | some (_ :: _, rest) => some rest
      | _ => none

/-- Whether a path is named like a bundle. -/
def isBundle (path : String) : Bool :=
  ending path = some "zip".toList || ending path = some "jar".toList

/-- The provider at a path: a directory, or else a bundle. -/
def provider (here : Surroundings) (path : String) : Except Failure Provider :=
  let names := here.path path
  if here.files.isDirectory names then .ok (.directory ("/" ++ "/".intercalate names))
  else if isBundle path then
    match here.files.read names with
    | .error e => .error (.bundle path e)
    | .ok bytes => ((Zip.Bundle.ofBytes path bytes).map .zip).mapError (.bundle path)
  else .error (.noResources path)

/-- The compiler of a command, or one that refuses everything if there is no command. -/
def compiler {σ : Type} (here : Surroundings) : Option String → Except Failure (Compiler σ)
  | none => .ok fun host source =>
      .finish host <| .error <| .ofMessage source <|
        s!"cannot compile {source}: no compiler configured; pass --compile-with"
  | some line =>
    match Command.parse? line with
    | some command => .ok (command.compiler here.machine)
    | none => .error .noCompiler

/-- Everything modules are looked up in and compiled with.  The settings are read first,
then the archive, the resources in order, and the compiler last. -/
def loader {σ : Type} (here : Surroundings) (options : LoaderOptions)
    (directory : Option String) : Except Failure (Environment × Compiler σ) := do
  let settings ← here.settings options.config
  let archive ← directory.elim (.ok .empty) here.archive
  let providers ← options.resources.mapM here.provider
  let compiler ← here.compiler options.compileWith
  return (⟨settings, archive, ⟨providers⟩, here.files⟩, compiler)

/-- The text that `resolve` writes about a module. -/
def listing (artifact : Artifact) (identityOnly : Bool) : String :=
  let contents := artifact.contents
  let ended := contents.toList.getLast? = some '\n'
  artifact.uri ++ "\n" ++
    (if identityOnly then "" else contents ++ (if ended then "" else "\n"))

/-- Finds a module and writes it. -/
def resolve (here : Surroundings) (options : LoaderOptions) (specifier : String)
    (base archive : Option String) (identityOnly : Bool) : Except Failure String := do
  let (env, compiler) ← here.loader options archive
  match (OnDemand.executable env compiler { host := () } specifier base).1 with
  | .error e => throw (.load e)
  | .ok none => throw (.notFound specifier)
  | .ok (some found) => return listing found.artifact identityOnly

/-- Compiles the sources of an archive and writes the result below a directory. -/
def compile (here : Surroundings) (options : LoaderOptions) (directory target : String) :
    FileTree × Except Failure String :=
  let prepared : Except Failure (Environment × Compiler Unit) := do
    let settings ← here.settings options.config
    let archive ← here.archive directory
    let compiler ← here.compiler options.compileWith
    let providers ← options.resources.mapM here.provider
    return (⟨settings, archive, ⟨providers⟩, here.files⟩, compiler)
  match prepared with
  | .error failure => (here.files, .error failure)
  | .ok (env, compiler) =>
    match (WholeArchive.compile env compiler ()).1 with
    | .error e => (here.files, .error (.load (.compilation e)))
    | .ok compiled =>
      let count := (WholeArchive.sources env.settings env.archive).length
      match compiled.writeTo here.files (here.path target) with
      | (files, none) => (files, .ok s!"Compiled {count} file(s) into {target}\n")
      | (files, some e) => (files, .error (.target target e))

/-- The runtime that feeds each module to a program. -/
def runtime (here : Surroundings) (command : Command) : Runtime Written :=
  fun written artifact _ =>
    match here.machine (command.launch artifact.bytes) with
    | .error e => .finish written (.error (s!"failed to start runtime '{command.program}': " ++ e.message))
    | .ok finished =>
      .finish ⟨written.output ++ finished.output, written.errors ++ finished.errors⟩ <|
        if finished.status.isSuccess then .ok ()
        else .error (s!"runtime '{command.program}' exited with " ++ finished.status.text)

/-- Finds a module and runs it.  The program that it is fed to loads what it needs itself,
so that loads do not nest. -/
def run (here : Surroundings) (options : LoaderOptions) (specifier : String)
    (base archive : Option String) (line : String) : Written × Except Failure Unit :=
  let prepared : Except Failure (Environment × Host Written) := do
    match Command.parse? line with
    | none => throw .noRuntime
    | some command =>
      let (env, compiler) ← here.loader options archive
      return (env, ⟨compiler, some (here.runtime command)⟩)
  match prepared with
  | .error failure => ({}, .error failure)
  | .ok (env, host) =>
    match Evaluation.loadAndRun env host 1 { host := {} } specifier base with
    | some (.error e, state) => (state.host, .error (.load e))
    | some (.ok (some _), state) => (state.host, .ok ())
    | some (.ok none, state) => (state.host, .error (.notFound specifier))
    | none => ({}, .error (.notFound specifier))

/-- The result of a task. -/
def report (files : FileTree) (written : Written) : Except Failure String → Result
  | .ok text => { written := { written with output := written.output ++ text.toUTF8 }, files := files }
  | .error failure =>
    { code := 1
      written := { written with errors := written.errors ++ failure.report.toUTF8 }
      files := files }

/-- Carries out a task. -/
def perform (here : Surroundings) (options : LoaderOptions) : Task → Result
  | .resolve specifier base archive identityOnly =>
    report here.files {} (here.resolve options specifier base archive identityOnly)
  | .compile directory target =>
    let (files, outcome) := here.compile options directory target
    report files {} outcome
  | .run specifier base archive line =>
    let (written, outcome) := here.run options specifier base archive line
    report here.files written (outcome.map fun _ => "")

end Surroundings

/-- The name and version of the program. -/
def versionText : String := "quire 0.1.0\n"

/-- How the program is called. -/
def usageText : String :=
  "Resolve, compile and run archive-backed modules\n\nUsage: quire [OPTIONS] <COMMAND>\n"

/-- Runs the program with the words of its command line. -/
def run (here : Surroundings) (words : List String) : Result :=
  match request? false words with
  | none => { code := 2, written := { errors := usageText.toUTF8 }, files := here.files }
  | some .version => { written := { output := versionText.toUTF8 }, files := here.files }
  | some .help => { written := { output := usageText.toUTF8 }, files := here.files }
  | some (.perform task options) => here.perform options task

end ModuleLoader.CommandLine
