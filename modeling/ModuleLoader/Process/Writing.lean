import ModuleLoader.Process.Call
import ModuleLoader.Process.Escape

/-
Programs that write their arguments: `echo` and `printf`.
-/

namespace ModuleLoader.Process

open Text

/-! ### Plain writing -/

/-- Arguments on one line.  As a program of its own, `echo` knows the options `-n`, `-e` and
`-E`; as a command of a shell it knows `-n` alone and resolves escapes. -/
def echoLine (escapes ended : Bool) (arguments : List (List Char)) : List UInt8 :=
  let line := (List.intersperse [' '] arguments).flatten
  if escapes then
    let (bytes, cut) := unescape line
    if cut || !ended then bytes else bytes ++ [10]
  else Utf8.encode line ++ (if ended then [10] else [])

/-- Reads the options of `echo`. -/
def echoOptions (escapes ended : Bool) : List (List Char) → List UInt8
  | [] => echoLine escapes ended []
  | word :: rest =>
    match word with
    | '-' :: letter :: letters =>
      if (letter :: letters).all fun c => c = 'n' || c = 'e' || c = 'E' then
        let chosen := (letter :: letters).filter (· ≠ 'n')
        echoOptions (chosen.getLast?.elim escapes (· = 'e'))
          (ended && !(letter :: letters).contains 'n') rest
      else echoLine escapes ended (word :: rest)
    | _ => echoLine escapes ended (word :: rest)

/-- The program `echo`. -/
def echo (call : Call) : Reply := { output := echoOptions false true call.arguments }

/-- The command `echo` of a shell. -/
def shellEcho (call : Call) : Reply :=
  match call.arguments with
  | ['-', 'n'] :: rest => { output := echoLine true false rest }
  | arguments => { output := echoLine true true arguments }

/-! ### Formatted writing -/

/-- A number as `printf` reads it: decimal, with a sign, or a quote and a character. -/
def number? (text : List Char) : Option Int :=
  match text with
  | [] => some 0
  | '"' :: c :: _ => some c.toNat
  | '\'' :: c :: _ => some c.toNat
  | '-' :: digits => (String.ofList digits).toNat?.map fun n => -(n : Int)
  | '+' :: digits => (String.ofList digits).toNat?.map fun n => (n : Int)
  | digits => (String.ofList digits).toNat?.map fun n => (n : Int)

/-- One conversion of a format. -/
structure Conversion where
  left : Bool
  zero : Bool
  width : Nat
  precision : Option Nat
  letter : Char

/-- Reads a conversion behind its percent sign. -/
def conversion? (cs : List Char) : Option (Conversion × List Char) :=
  let flags := cs.takeWhile fun c => "-+ #0".toList.contains c
  let cs := cs.dropWhile fun c => "-+ #0".toList.contains c
  let width := cs.takeWhile Char.isDigit
  let cs := cs.dropWhile Char.isDigit
  let (precision, cs) := match cs with
    | '.' :: rest =>
      (some ((String.ofList (rest.takeWhile Char.isDigit)).toNat?.getD 0), rest.dropWhile Char.isDigit)
    | _ => (none, cs)
  match cs with
  | letter :: rest =>
    some (⟨flags.contains '-', flags.contains '0', (String.ofList width).toNat?.getD 0, precision,
      letter⟩, rest)
  | [] => none

/-- What a conversion writes for an argument. -/
def convert (c : Conversion) (argument : List Char) : List UInt8 :=
  let text (bytes : List UInt8) := padded c.width c.left 32 ((c.precision.elim bytes bytes.take))
  let digits (base : Nat) : List UInt8 :=
    let n := (number? argument).getD 0
    let sign : List UInt8 := if n < 0 then [45] else []
    padded c.width c.left (if c.zero && !c.left then 48 else 32)
      (sign ++ Utf8.encode (Nat.toDigits base n.natAbs))
  match c.letter with
  | 's' => text (Utf8.encode argument)
  | 'b' => text (unescape argument).1
  | 'c' => text ((Utf8.encode argument).take 1)
  | 'd' | 'i' | 'u' => digits 10
  | 'o' => digits 8
  | 'x' => digits 16
  | 'X' => (digits 16).map fun b => if 97 ≤ b && b ≤ 102 then b - 32 else b
  | _ => []

/-- Writes a format once: the bytes, the arguments left, and whether any was used.  The fuel
is the length of the format. -/
def formatOnce : Nat → List Char → List (List Char) → List UInt8 × List (List Char) × Bool
  | 0, _, arguments => ([], arguments, false)
  | _, [], arguments => ([], arguments, false)
  | fuel + 1, '\\' :: rest, arguments =>
    let (byte, rest) := escape rest
    let (bytes, arguments, used) := formatOnce fuel rest arguments
    (byte :: bytes, arguments, used)
  | fuel + 1, '%' :: '%' :: rest, arguments =>
    let (bytes, arguments, used) := formatOnce fuel rest arguments
    (37 :: bytes, arguments, used)
  | fuel + 1, '%' :: rest, arguments =>
    match conversion? rest with
    | none => ([], arguments, false)
    | some (c, rest) =>
      let (bytes, left, used) := formatOnce fuel rest arguments.tail
      (convert c (arguments.headD []) ++ bytes, left, used || !arguments.isEmpty)
  | fuel + 1, c :: rest, arguments =>
    let (bytes, arguments, used) := formatOnce fuel rest arguments
    (String.utf8EncodeChar c ++ bytes, arguments, used)

/-- Writes a format as often as there are arguments for it. -/
def format : Nat → List Char → List (List Char) → List UInt8
  | 0, _, _ => []
  | fuel + 1, pattern, arguments =>
    let (bytes, left, used) := formatOnce pattern.length pattern arguments
    if used && !left.isEmpty then bytes ++ format fuel pattern left else bytes

/-- The command `printf`. -/
def printf (call : Call) : Reply :=
  match call.arguments with
  | [] => { errors := bytesOf "printf: usage: printf format [arg ...]\n", status := 2 }
  | pattern :: arguments => { output := format (arguments.length + 1) pattern arguments }

end ModuleLoader.Process
