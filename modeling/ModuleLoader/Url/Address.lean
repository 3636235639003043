import ModuleLoader.Url.Basic

/-
Numeric hosts.

An IPv4 address is one to four numbers between dots, each decimal, octal (`0`) or
hexadecimal (`0x`); the last one fills all bytes that are left.  An IPv6 address is eight
groups of up to four hexadecimal digits between colons; one `::` stands for as many zero
groups as are missing, at least one, and the last two groups may be written as four
decimal bytes.
-/

namespace ModuleLoader.Url

open Text

/-- The number that digits of one base spell, the empty text being zero. -/
def numberOf (base : Nat) (digits : List Char) : Option Nat :=
  digits.foldlM (fun n c =>
    match Percent.hexValue? c with
    | some d => if d < base then some (n * base + d) else none
    | none => none) 0

/-- One number of an IPv4 address. -/
def ipv4Number? (part : List Char) : Option Nat :=
  match part with
  | [] => none
  | '0' :: 'x' :: digits => numberOf 16 digits
  | '0' :: 'X' :: digits => numberOf 16 digits
  | '0' :: d :: digits => numberOf 8 (d :: digits)
  | digits => numberOf 10 digits

/-- A host whose last part is a number has to be an IPv4 address.  A closing dot does not
count. -/
def endsInNumber (host : List Char) : Bool :=
  let numeric (part : List Char) :=
    (!part.isEmpty && part.all Char.isDigit) || (ipv4Number? part).isSome
  match (split '.' host).reverse with
  | [] :: part :: _ => numeric part
  | [] :: [] => false
  | part :: _ => numeric part
  | [] => false

/-- The address that numbers between dots spell. -/
def ipv4? (host : List Char) : Option Nat := do
  let parts := split '.' host
  let parts := if parts.getLast? = some [] then parts.dropLast else parts
  if parts.length > 4 then none
  let numbers ← parts.mapM ipv4Number?
  let last ← numbers.getLast?
  let front := numbers.dropLast
  if last ≥ Nat.pow 256 (4 - front.length) then none
  if front.any (· > 255) then none
  return front.zipIdx.foldl (fun sum (n, i) => sum + n * Nat.pow 256 (3 - i)) last

/-- A group of an IPv6 address: one to four hexadecimal digits. -/
def group? (text : List Char) : Option Nat :=
  if text.isEmpty || text.length > 4 then none else numberOf 16 text

/-- A decimal byte without leading zeros. -/
def decimalByte? (text : List Char) : Option Nat := do
  if text.isEmpty || (text.length > 1 && text.head? = some '0') then none
  let n ← numberOf 10 text
  if n > 255 then none
  return n

/-- Four decimal bytes as two groups. -/
def dottedGroups? (text : List Char) : Option (List Nat) := do
  match ← (split '.' text).mapM decimalByte? with
  | [a, b, c, d] => some [a * 256 + b, c * 256 + d]
  | _ => none

/-- Groups between colons; the last part may be dotted if `closing`. -/
def groups? (closing : Bool) : List (List Char) → Option (List Nat)
  | [] => some []
  | [part] =>
    if closing && part.contains '.' then dottedGroups? part else (group? part).map ([·])
  | part :: rest => do
    let g ← group? part
    let gs ← groups? closing rest
    return g :: gs

/-- The text before the first `::` and the text after it. -/
def cutDoubleColon? : List Char → Option (List Char × List Char)
  | ':' :: ':' :: rest => some ([], rest)
  | c :: rest => (cutDoubleColon? rest).map fun (before, after) => (c :: before, after)
  | [] => none

/-- The eight groups of an IPv6 address. -/
def ipv6? (text : List Char) : Option (List Nat) := do
  let side (closing : Bool) (part : List Char) :=
    if part.isEmpty then some [] else groups? closing (split ':' part)
  match cutDoubleColon? text with
  | some (before, after) =>
    let front ← side false before
    let back ← side true after
    if front.length + back.length > 7 then none
    return front ++ List.replicate (8 - front.length - back.length) 0 ++ back
  | none =>
    let all ← side true text
    if all.length ≠ 8 then none
    return all

end ModuleLoader.Url
