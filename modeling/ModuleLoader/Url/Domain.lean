import ModuleLoader.Text.Composed
import ModuleLoader.Text.Utf8
import ModuleLoader.Url.Basic
import ModuleLoader.Url.Domain.Direction
import ModuleLoader.Url.Domain.Mapping
import ModuleLoader.Url.Domain.Punycode

/-
Domain names.

A domain name is brought into the one form that hosts are compared by: lower-case ASCII.
Its characters are replaced by those that stand for them, the text is composed, and every
label that is not ASCII is written with the mark `xn--` before it.  A label that bears the
mark already has to be one that could have been written so.
-/

namespace ModuleLoader.Url

open Text

/-- Characters that no domain name may hold. -/
def forbiddenInDomain (c : Char) : Bool :=
  c.toNat ≤ 0x20 || c.toNat = 0x7F ||
    c ∈ ['#', '%', '/', ':', '<', '>', '?', '@', '[', '\\', ']', '^', '|']

/-- The mark of a label that is not written in its own characters. -/
def labelMark : List Char := "xn--".toList

/-- Characters that join their neighbours stand only behind a sign that joins. -/
def joinsWell : (before : Option Nat) → List Nat → Bool
  | _, [] => true
  | before, n :: rest =>
    (n ≠ 0x200C && n ≠ 0x200D || (before.map Composed.place).getD 0 = 9) && joinsWell (some n) rest

/-- Whether the characters of a label may stand as they do. -/
def isLabel (label : List Nat) : Bool :=
  label.all isSettled && !(label.head?.any Composed.isMark) && joinsWell none label &&
    Composed.compose label = label

/-- A label in ASCII, and in its own characters. -/
def readLabel? (label : List Nat) : Option (List Char × List Nat) :=
  let isAscii := label.all (· < 0x80)
  match dropStart? labelMark (label.map Char.ofNat) with
  | some rest =>
    match Punycode.decode? rest with
    | none => none
    | some text =>
      if isAscii && !text.all (· < 0x80) && isLabel text then some (label.map Char.ofNat, text)
      else none
  | none =>
    if isAscii then some (label.map Char.ofNat, label)
    else if isLabel label then some (labelMark ++ Punycode.encode label, label)
    else none

/-- The labels between the dots of a name. -/
def labels (name : List Nat) : List (List Nat) :=
  (split '.' (name.map Char.ofNat)).map fun label => label.map Char.toNat

/-- The ASCII form of the domain name spelled by `bytes`. -/
def domainToAscii? (bytes : List UInt8) : Option (List Char) := do
  let text ← (Utf8.decode ⟨bytes.toArray⟩).toOption
  let replaced ← text.toList.mapM fun c => replacement? c.toNat
  let read ← (labels (Composed.compose replaced.flatten)).mapM readLabel?
  let name := join '.' (read.map Prod.fst)
  if name.any forbiddenInDomain || !Direction.areReadable (read.map Prod.snd) then none
  else some name

end ModuleLoader.Url
