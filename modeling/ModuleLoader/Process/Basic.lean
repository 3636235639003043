import ModuleLoader.FileTree
import ModuleLoader.Text.Blank

/-
Programs that are started, fed and awaited.

A machine is a function: told which program to start with which arguments and what to feed
it, it answers with what the program wrote and how it ended, or with the reason why the
program could not be started.  Everything that starts a program takes the machine as an
argument and assumes nothing about it.
-/

namespace ModuleLoader

/-- How a program ended. -/
inductive ExitStatus where
  | exited (code : Nat)
  | killed (signal : Nat)
  deriving Repr, DecidableEq

namespace ExitStatus

/-- The names of the signals that end a program. -/
def signalNames : List (Nat × String) :=
  [(1, "HUP"), (2, "INT"), (3, "QUIT"), (4, "ILL"), (5, "TRAP"), (6, "ABRT"), (7, "BUS"),
   (8, "FPE"), (9, "KILL"), (10, "USR1"), (11, "SEGV"), (12, "USR2"), (13, "PIPE"),
   (14, "ALRM"), (15, "TERM"), (16, "STKFLT"), (24, "XCPU"), (25, "XFSZ"), (26, "VTALRM"),
   (27, "PROF"), (29, "IO"), (30, "PWR"), (31, "SYS")]

/-- Only a program that exits with the code zero has succeeded. -/
def isSuccess (status : ExitStatus) : Bool := status = .exited 0

/-- The status in words. -/
def text : ExitStatus → String
  | exited code => s!"exit status: {code}"
  | killed signal =>
    match signalNames.lookup signal with
    | some name => s!"signal: {signal} (SIG" ++ name ++ ")"
    | none => s!"signal: {signal}"

end ExitStatus

/-- The starting of a program. -/
structure Launch where
  program : String
  arguments : List String := []
  input : ByteArray := ByteArray.empty

/-- What a program has written when it has ended. -/
structure Finished where
  output : ByteArray
  errors : ByteArray
  status : ExitStatus

/-- What happens on a machine when a program is started. -/
abbrev Machine := Launch → Except IoError Finished

/-- A program and its arguments. -/
structure Command where
  program : String
  arguments : List String := []
  deriving Repr, DecidableEq

namespace Command

/-- The command that a line spells: words between white space, without any quoting.  A blank
line spells none. -/
def parse? (line : String) : Option Command :=
  match (Text.words line.toList).map String.ofList with
  | [] => none
  | program :: arguments => some ⟨program, arguments⟩

/-- Starts the command. -/
def launch (command : Command) (input : ByteArray) : Launch :=
  ⟨command.program, command.arguments, input⟩

end Command

end ModuleLoader
