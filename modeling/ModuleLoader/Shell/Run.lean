import ModuleLoader.Shell.Builtin
import ModuleLoader.Shell.Expansion
import ModuleLoader.Shell.Parser

/-
Running scripts.

A script is read and carried out line by line, so that what stands before a fault is done.
Commands in parentheses, between bars and in substitutions run in a copy of the session:
what they write and read counts, what they assign does not.

The fuel bounds how deep commands and repetitions nest; a script that needs more is killed.
-/

namespace ModuleLoader.Shell

open Text

/-- Runs something in a copy of the session that only shares the channels and the files. -/
def inCopy (body : Action Unit) : Action Unit := do
  let before ← get
  tryCatch body fun
    | .exit => pure ()
    | stop => throw stop
  modify fun after => { before with
    channels := after.channels
    files := after.files
    status := after.status }

/-- The session with an empty channel in place of what a descriptor leads to. -/
def Session.withPipe (s : Session) : Nat × Session := s.addChannel []

/-- A text without the line feeds at its end. -/
def dropLineFeeds (text : List Char) : List Char := (text.reverse.dropWhile (· = '\n')).reverse

/-- The name by which a program is known, if it is one that every machine has. -/
def programName? (program : String) : Option String :=
  let name := ["/bin/", "/usr/bin/"].findSome? fun place =>
    (dropStart? place.toList program.toList).map String.ofList
  let name := name.getD program
  if name = "sh" || (Process.tools.lookup name).isSome then some name else none

/-- Reports a command that cannot be started. -/
def Session.reportMissing (line : Nat) (program : List Char) (s : Session) : Session :=
  let name := String.ofList program
  if program.contains '/' && (s.files.stat (s.path name)).toOption.isSome then
    (s.complain line s!"{name}: Permission denied").withStatus 126
  else (s.complain line s!"{name}: not found").withStatus 127

/-- Reports that a program was killed. -/
def reportDeath : Stop → Action Unit
  | .exit => pure ()
  | .killed signal =>
    let text := ([(9, "Killed"), (15, "Terminated")].lookup signal).getD "Signal"
    modify fun s => (s.write 2 (Process.bytesOf (text ++ "\n"))).withStatus (128 + signal)

mutual

/-- Expands a word. -/
def glyphs : Nat → Word → Action (List Glyph)
  | 0, _ => throw (.killed 9)
  | fuel + 1, word => do
    let parts ← word.mapM fun
      | .text chars true => pure (.present :: chars.map Glyph.fixed)
      | .text chars false => pure (chars.map Glyph.fixed)
      | .parameter name quoted => return (← get).parameterGlyphs name quoted
      | .output script quoted => return Glyph.ofValue quoted (← captured fuel script)
    return parts.flatten

/-- What a script writes. -/
def captured : Nat → List Char → Action (List Char)
  | 0, _ => throw (.killed 9)
  | fuel + 1, script => do
    let (channel, s) := (← get).withPipe
    set s
    inCopy do
      modify (Session.redirect 1 (.channel channel))
      text fuel script
    let written := ((← get).channels[channel]?).getD []
    return dropLineFeeds (decodeLossy written)
where
  /-- The characters of some bytes. -/
  decodeLossy (bytes : List UInt8) : List Char := Utf8.decodeLossy bytes

/-- Runs something with redirections in force, unless one of them fails. -/
def redirected : Nat → Nat → List Redirection → Action Unit → Action Unit
  | 0, _, _, _ => throw (.killed 9)
  | _ + 1, _, [], body => body
  | fuel + 1, line, r :: rest, body => do
    let target := Glyph.characters (← glyphs fuel r.target)
    let s ← get
    match s.openTarget r.kind target with
    | .ok (some found, s) => set (s.redirect r.descriptor found)
    | .ok (none, s) => set (s.close r.descriptor)
    | .error text =>
      set ((s.complain line text).withStatus 2)
      return
    redirected fuel line rest body

/-- Runs something with redirections that are undone afterwards. -/
def within : Nat → Nat → List Redirection → Action Unit → Action Unit
  | 0, _, _, _ => throw (.killed 9)
  | fuel + 1, line, redirections, body => do
    let before := (← get).descriptors
    redirected fuel line redirections body
    modify fun s => { s with descriptors := before }

/-- Carries out a command by its name. -/
def invoke : Nat → Nat → List Char → List (List Char) → Action Unit
  | 0, _, _, _ => throw (.killed 9)
  | fuel + 1, line, name, arguments =>
    match String.ofList name with
    | ":" | "true" => modify (Session.withStatus 0)
    | "false" => modify (Session.withStatus 1)
    | "exit" => exitCommand line arguments
    | "kill" => kill line Session.processNumber arguments
    | "echo" => modify (Session.callTool Process.shellEcho arguments)
    | "printf" => modify (Session.callTool Process.printf arguments)
    | "test" => modify (test line arguments)
    | "[" => modify (test line arguments.dropLast)
    | "read" => modify (read arguments)
    | "shift" => modify fun s => { s with parameters := s.parameters.drop 1, status := 0 }
    | "eval" => text fuel (List.intersperse [' '] arguments).flatten
    | program =>
      match programName? program with
      | none => modify (Session.reportMissing line name)
      | some "sh" => inCopy (tryCatch (shell fuel arguments) reportDeath)
      | some known =>
        match Process.tools.lookup known with
        | some tool => modify (Session.callTool tool arguments)
        | none => modify (Session.reportMissing line name)

/-- Carries out a command. -/
def execute : Nat → Script → Action Unit
  | 0, _ => throw (.killed 9)
  | fuel + 1, script =>
    match script with
    | .nothing => pure ()
    | .sequence first second => do
      execute fuel first
      execute fuel second
    | .pipe left right => do
      let (channel, s) := (← get).withPipe
      set s
      inCopy do
        modify (Session.redirect 1 (.channel channel))
        execute fuel left
      inCopy do
        modify (Session.redirect 0 (.channel channel))
        execute fuel right
    | .negated body => do
      execute fuel body
      modify fun s => s.withStatus (if s.status = 0 then 1 else 0)
    | .both left right => do
      execute fuel left
      if (← get).status = 0 then execute fuel right
    | .either left right => do
      execute fuel left
      if (← get).status ≠ 0 then execute fuel right
    | .subshell body redirections => inCopy (within fuel 1 redirections (execute fuel body))
    | .group body redirections => within fuel 1 redirections (execute fuel body)
    | .choice condition yes no => do
      execute fuel condition
      if (← get).status = 0 then execute fuel yes
      else
        modify (Session.withStatus 0)
        execute fuel no
    | .loop inverted condition body => do
      execute fuel condition
      if ((← get).status = 0) = !inverted then
        execute fuel body
        execute fuel (.loop inverted condition body)
      else modify (Session.withStatus 0)
    | .each name values body => do
      let fields ← match values with
        | some words => do
          let expanded ← words.mapM (glyphs fuel)
          pure (expanded.map Glyph.fields).flatten
        | none => pure (← get).parameters
      modify (Session.withStatus 0)
      fields.forM fun value => do
        modify (Session.assign name value)
        execute fuel body
    | .simple line assignments words redirections => do
      let fields := ((← words.mapM (glyphs fuel)).map Glyph.fields).flatten
      let values ← assignments.mapM fun (name, value) =>
        return (name, Glyph.characters (← glyphs fuel value))
      let assigning (s : Session) := values.foldl (fun s (name, value) => s.assign name value) s
      match fields with
      | [] =>
        within fuel line redirections
          (modify fun s => assigning (if words.isEmpty then s.withStatus 0 else s))
      | name :: arguments =>
        if name = "exec".toList then
          match arguments with
          | [] => redirected fuel line redirections (modify (Session.withStatus 0))
          | program :: arguments =>
            redirected fuel line redirections (invoke fuel line program arguments)
            throw .exit
        else
          let before := (← get).bindings
          modify assigning
          within fuel line redirections (invoke fuel line name arguments)
          if !values.isEmpty then modify fun s => { s with bindings := before }

/-- Carries out a script line by line. -/
def lines : Nat → Nat → Parser.Tokens → Action Unit
  | 0, _, _ => throw (.killed 9)
  | fuel + 1, last, tokens =>
    match Parser.line last tokens with
    | .error fault => complain fault
    | .ok (script, rest) => do
      execute fuel script
      if rest.isEmpty then pure () else lines fuel last rest
where
  /-- Ends the shell over a script that cannot be read. -/
  complain (fault : SyntaxFault) : Action Unit := do
    let (line, text) := fault.message
    modify fun s => (s.complain line text).withStatus 2
    throw .exit

/-- Carries out a script given as text. -/
def text : Nat → List Char → Action Unit
  | 0, _ => throw (.killed 9)
  | fuel + 1, script =>
    match tokens script with
    | .ok found => lines fuel (1 + script.count '\n') found
    | .error line => do
      modify fun s => (s.complain line (SyntaxFault.openQuote line).message.2).withStatus 2
      throw .exit

/-- Runs a shell by its arguments: `-c` and a script with its name and parameters, or a file
with parameters, or nothing, when the script stands on standard input. -/
def shell : Nat → List (List Char) → Action Unit
  | 0, _ => throw (.killed 9)
  | fuel + 1, arguments => do
    let begin (name : List Char) (parameters : List (List Char)) : Action Unit :=
      modify fun s => { s with name := name, parameters := parameters, bindings := [], status := 0 }
    let called := "sh".toList
    match arguments with
    | ['-', 'c'] :: script :: name :: parameters =>
      begin name parameters
      text fuel script
    | [['-', 'c'], script] =>
      begin called []
      text fuel script
    | [['-', 'c']] =>
      begin called []
      modify fun s => (s.complain 0 "-c requires an argument").withStatus 2
    | [] =>
      begin called []
      let bytes := ((← get).pending 0).getD []
      modify (Session.take 0 bytes.length)
      text fuel (Utf8.decodeLossy bytes)
    | file :: parameters =>
      begin file parameters
      let s ← get
      match s.files.read (s.path (String.ofList file)) with
      | .ok bytes => text fuel (Utf8.decodeLossy bytes.toList)
      | .error _ =>
        set ({ s with name := called }.complain 0
          s!"cannot open {String.ofList file}: No such file" |>.withStatus 2)

end

/-- How deep commands may nest and how often they may be repeated. -/
def depthLimit : Nat := 4000

/-- Runs a shell among some files in a directory. -/
def start (files : FileTree) (directory : FileTree.Location) (launch : Launch) : Finished :=
  let s : Session :=
    { name := "sh".toList, parameters := [], channels := [launch.input.toList, [], []]
      files := files, directory := directory }
  let (result, s) := (shell depthLimit (launch.arguments.map String.toList)).run.run s
  let written (index : Nat) : ByteArray :=
    ((s.channels[index]?).getD []).foldl ByteArray.push ByteArray.empty
  let status := match result with
    | .error (.killed signal) => .killed signal
    | _ => .exited (s.status % 256)
  ⟨written 1, written 2, status⟩

end ModuleLoader.Shell
