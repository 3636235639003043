import ModuleLoader.Shell.Session

/-
Commands that the shell carries out itself.
-/

namespace ModuleLoader.Shell

open Text

/-- The session with this status. -/
def Session.withStatus (status : Nat) (s : Session) : Session := { s with status := status }

/-- Lets a tool read and write through the descriptors of the session. -/
def Session.callTool (tool : Process.Call → Process.Reply) (arguments : List (List Char))
    (s : Session) : Session :=
  let input := s.pending 0
  let file (name : String) :=
    if name = "/dev/null" then .ok ByteArray.empty else s.files.read (s.path name)
  let reply := tool ⟨arguments, input, file⟩
  let s := if reply.drains then s.take 0 (input.getD []).length else s
  let lost := !reply.output.isEmpty && (s.descriptors.lookup 1).isNone
  ((s.write 1 reply.output).write 2 reply.errors).withStatus (if lost then 1 else reply.status)

/-- The number that an argument spells. -/
def number? (word : List Char) : Option Nat :=
  if !word.isEmpty && word.all Char.isDigit then (String.ofList word).toNat? else none

/-- Ends the shell with a status, or with that of the last command. -/
def exitCommand (line : Nat) : List (List Char) → Action Unit
  | [] => throw .exit
  | word :: _ => do
    match number? word with
    | some n => modify (Session.withStatus (n % 256))
    | none =>
      modify fun s =>
        (s.complain line s!"exit: Illegal number: {String.ofList word}").withStatus 2
    throw .exit

/-- The signal that a word names. -/
def signal? (word : List Char) : Option Nat :=
  match number? word with
  | some n => some n
  | none =>
    let upper := word.map Char.toUpper
    let name := (dropStart? "SIG".toList upper).getD upper
    (ExitStatus.signalNames.find? fun entry => entry.2.toList = name).map (·.1)

/-- Sends a signal to the shell itself; it knows of no other program. -/
def killCommand (line number : Nat) (targets : List (List Char)) (own : List Char) : Action Unit :=
  if targets.contains own then
    if number = 0 then modify (Session.withStatus 0) else throw (.killed number)
  else modify fun s => (s.complain line "kill: No such process").withStatus 1

/-- The command `kill`. -/
def kill (line : Nat) (own : List Char) : List (List Char) → Action Unit
  | ['-', 's'] :: name :: targets => send name targets
  | ('-' :: name) :: targets => send name targets
  | targets => killCommand line 15 targets own
where
  /-- Sends the signal that a word names. -/
  send (name : List Char) (targets : List (List Char)) : Action Unit :=
    match signal? name with
    | some number => killCommand line number targets own
    | none =>
      modify fun s =>
        (s.complain line s!"kill: invalid signal number or name: {String.ofList name}").withStatus 2

/-- Whether a comparison of two numbers holds. -/
def compares (operator : String) (a b : Int) : Option Bool :=
  match operator with
  | "-eq" => some (a = b)
  | "-ne" => some (a ≠ b)
  | "-lt" => some (a < b)
  | "-le" => some (a ≤ b)
  | "-gt" => some (a > b)
  | "-ge" => some (a ≥ b)
  | _ => none

/-- Whether a condition holds; there is no answer to a text that is no condition. -/
def holds (s : Session) : List (List Char) → Option Bool
  | [] => some false
  | [a] => some (!a.isEmpty)
  | ['!'] :: rest => (holds s rest).map not
  | [operator, a] =>
    let path := s.path (String.ofList a)
    match String.ofList operator with
    | "-n" => some (!a.isEmpty)
    | "-z" => some a.isEmpty
    | "-f" => some (s.files.isFile path)
    | "-d" => some (s.files.isDirectory path)
    | "-e" => some (s.files.stat path).toOption.isSome
    | _ => none
  | [a, operator, b] =>
    match String.ofList operator with
    | "=" => some (a = b)
    | "!=" => some (a ≠ b)
    | other => do
      let x ← Process.number? a
      let y ← Process.number? b
      compares other x y
  | _ => none

/-- The command `test`. -/
def test (line : Nat) (arguments : List (List Char)) (s : Session) : Session :=
  match holds s arguments with
  | some true => s.withStatus 0
  | some false => s.withStatus 1
  | none =>
    (s.complain line s!"test: {String.ofList (arguments.getD 1 [])}: unexpected operator").withStatus 2

/-- Gives the words of a line to names, the rest of the line to the last name. -/
def assignWords : List (List Char) → List Char → Session → Session
  | [], _, s => s
  | [name], rest, s => s.assign name (trim rest)
  | name :: names, rest, s =>
    let rest := trimStart rest
    assignWords names (rest.dropWhile fun c => !isBlank c)
      (s.assign name (rest.takeWhile fun c => !isBlank c))

/-- Reads a line; the status tells whether it was ended. -/
def read (names : List (List Char)) (s : Session) : Session :=
  let names := names.filter (· ≠ ['-', 'r'])
  let bytes := (s.pending 0).getD []
  let found := bytes.takeWhile (· ≠ 10)
  let ended := found.length < bytes.length
  (assignWords names (Utf8.decodeLossy found) (s.take 0 (found.length + 1))).withStatus
    (if ended then 0 else 1)

end ModuleLoader.Shell
