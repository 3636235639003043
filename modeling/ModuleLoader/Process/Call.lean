import ModuleLoader.Process.Basic

/-
The small programs that every machine has: what they are told and what they answer.

Text is bytes here, so that what is no character passes through unchanged.
-/

namespace ModuleLoader.Process

open Text

/-- What a tool is told. -/
structure Call where
  arguments : List (List Char)
  /-- There is none if standard input is closed. -/
  input : Option (List UInt8)
  /-- Reads a file named by an argument. -/
  file : String → Except IoError ByteArray

/-- What a tool answers. -/
structure Reply where
  output : List UInt8 := []
  errors : List UInt8 := []
  status : Nat := 0
  /-- Whether standard input has been read to its end. -/
  drains : Bool := false

/-- The bytes of a text. -/
def bytesOf (text : String) : List UInt8 := text.toUTF8.toList

/-- A line of complaint and the status one. -/
def complain (text : String) : Reply := { errors := bytesOf (text ++ "\n"), status := 1 }

/-- Bytes between words. -/
def isSpaceByte (b : UInt8) : Bool := b = 32 || (9 ≤ b && b ≤ 13)

/-- Bytes that are written as characters. -/
def isPrinted (b : UInt8) : Bool := 32 ≤ b && b < 127

/-- A text brought to a width, with `fill` before it or with blanks behind it. -/
def padded (width : Nat) (left : Bool) (fill : UInt8) (bytes : List UInt8) : List UInt8 :=
  let missing := width - bytes.length
  if left then bytes ++ List.replicate missing 32 else List.replicate missing fill ++ bytes

/-- The bytes that an operand of a tool names; `-` is standard input. -/
def operand (call : Call) (tool : String) (name : List Char) : Except (List UInt8) (List UInt8) :=
  if name = ['-'] then
    match call.input with
    | some bytes => .ok bytes
    | none => .error (bytesOf s!"{tool}: -: Bad file descriptor\n")
  else
    match call.file (String.ofList name) with
    | .ok bytes => .ok bytes.toList
    | .error e =>
      let reason := String.ofList (e.message.toList.takeWhile (· ≠ '('))
      .error (bytesOf (s!"{tool}: {String.ofList name}: " ++ reason.trimAsciiEnd.toString ++ "\n"))

end ModuleLoader.Process
