import ModuleLoader.Process.Tool
import ModuleLoader.Shell.Syntax

/-
The state of a running shell.

Bytes flow through channels: what is written is appended to a channel and what is read is
taken from its front.  Descriptors lead to channels, to files or to nowhere, so a pipe is a
channel that one command writes and the next one reads.
-/

namespace ModuleLoader.Shell

open Text

/-- Where a descriptor leads. -/
inductive Target where
  | channel (index : Nat)
  | file (path : String)
  /-- Nothing is read from it, and what is written to it is lost. -/
  | nowhere
  deriving Repr, DecidableEq

/-- Everything that commands can see and change. -/
structure Session where
  /-- What the script calls itself. -/
  name : List Char
  parameters : List (List Char)
  bindings : List (List Char × List Char) := []
  channels : List (List UInt8)
  /-- Descriptors that are not listed are closed. -/
  descriptors : List (Nat × Target) := [(0, .channel 0), (1, .channel 1), (2, .channel 2)]
  status : Nat := 0
  files : FileTree
  directory : FileTree.Location

/-- Why a script stops before its end. -/
inductive Stop where
  | exit
  | killed (signal : Nat)
  deriving Repr, DecidableEq

/-- A step of a shell; the session survives a stop. -/
abbrev Action := ExceptT Stop (StateM Session)

namespace Session

/-- The value of a variable. -/
def value? (s : Session) (name : List Char) : Option (List Char) := s.bindings.lookup name

/-- Gives a variable a value. -/
def assign (name value : List Char) (s : Session) : Session :=
  { s with bindings := (name, value) :: s.bindings.filter (·.1 ≠ name) }

/-- The names that lead to a file. -/
def path (s : Session) (file : String) : List String := FileTree.fromRoot s.directory file

/-- Appends bytes to what a descriptor leads to; nothing happens if it is closed. -/
def write (descriptor : Nat) (bytes : List UInt8) (s : Session) : Session :=
  match s.descriptors.lookup descriptor with
  | some (.channel index) => { s with channels := s.channels.modify index (· ++ bytes) }
  | some (.file file) =>
    let before := ((s.files.read (s.path file)).toOption.getD ByteArray.empty)
    let after := bytes.foldl ByteArray.push before
    { s with files := (s.files.write (s.path file) after).toOption.getD s.files }
  | _ => s

/-- The bytes that stand ready on a descriptor. -/
def pending (descriptor : Nat) (s : Session) : Option (List UInt8) :=
  match s.descriptors.lookup descriptor with
  | some (.channel index) => some (s.channels[index]?.getD [])
  | some _ => some []
  | none => none

/-- Takes bytes from the front of what a descriptor reads. -/
def take (descriptor count : Nat) (s : Session) : Session :=
  match s.descriptors.lookup descriptor with
  | some (.channel index) => { s with channels := s.channels.modify index (·.drop count) }
  | _ => s

/-- A new channel that holds some bytes. -/
def addChannel (bytes : List UInt8) (s : Session) : Nat × Session :=
  (s.channels.length, { s with channels := s.channels ++ [bytes] })

/-- Makes a descriptor lead to a target. -/
def redirect (descriptor : Nat) (target : Target) (s : Session) : Session :=
  { s with descriptors := (descriptor, target) :: s.descriptors.filter (·.1 ≠ descriptor) }

/-- Closes a descriptor. -/
def close (descriptor : Nat) (s : Session) : Session :=
  { s with descriptors := s.descriptors.filter (·.1 ≠ descriptor) }

/-- Writes a complaint about a line of the script. -/
def complain (line : Nat) (text : String) (s : Session) : Session :=
  s.write 2 (Process.bytesOf (String.ofList s.name ++ s!": {line}: " ++ text ++ "\n"))

/-- What a descriptor leads to for a redirection, or a complaint. -/
def openTarget (kind : RedirectionKind) (word : List Char) (s : Session) :
    Except String (Option Target × Session) :=
  let file := String.ofList word
  match kind with
  | .duplicate =>
    if word = ['-'] then .ok (none, s)
    else if !word.isEmpty && word.all Char.isDigit then
      match s.descriptors.lookup (file.toNat?.getD 0) with
      | some target => .ok (some target, s)
      | none => .error s!"{file}: Bad file descriptor"
    else .error "Syntax error: Bad fd number"
  | .input =>
    if file = "/dev/null" then .ok (some .nowhere, s)
    else
      match s.files.read (s.path file) with
      | .ok bytes =>
        let (index, s) := s.addChannel bytes.toList
        .ok (some (.channel index), s)
      | .error _ => .error s!"cannot open {file}: No such file"
  | .output | .append =>
    if file = "/dev/null" then .ok (some .nowhere, s)
    else
      let held := if kind = .append then (s.files.read (s.path file)).toOption else none
      match s.files.write (s.path file) (held.getD ByteArray.empty) with
      | .ok files => .ok (some (.file file), { s with files := files })
      | .error .noSuchFile => .error s!"cannot create {file}: Directory nonexistent"
      | .error _ => .error s!"cannot create {file}: Is a directory"

end Session

end ModuleLoader.Shell
