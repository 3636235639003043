import ModuleLoader.Process.Call
import ModuleLoader.Process.Escape
import ModuleLoader.Text.Split

/-
Replacing, deleting and squeezing bytes: `tr`.
-/

namespace ModuleLoader.Process

open Text

/-- The classes that a set may name. -/
def byteClasses : List (String × (UInt8 → Bool)) :=
  let between (low high b : UInt8) := low ≤ b && b ≤ high
  let lower := between 97 122
  let upper := between 65 90
  let digit := between 48 57
  [("lower", lower), ("upper", upper), ("digit", digit),
   ("alpha", fun b => lower b || upper b), ("alnum", fun b => lower b || upper b || digit b),
   ("space", isSpaceByte), ("blank", fun b => b = 32 || b = 9),
   ("cntrl", fun b => b < 32 || b = 127), ("print", isPrinted),
   ("graph", fun b => isPrinted b && b ≠ 32),
   ("punct", fun b => isPrinted b && b ≠ 32 && !(lower b || upper b || digit b)),
   ("xdigit", fun b => digit b || between 97 102 b || between 65 70 b)]

/-- All bytes in order. -/
def allBytes : List UInt8 := (List.range 256).map UInt8.ofNat

/-- The bytes of a set as written, each with whether it can join the ends of a range. -/
def setBytes : Nat → List Char → List (UInt8 × Bool)
  | 0, _ => []
  | _, [] => []
  | fuel + 1, '\\' :: c :: rest =>
    if (octalDigit? c).isSome || (letterEscapes.lookup c).isSome then
      let (byte, rest) := escape (c :: rest)
      (byte, false) :: setBytes fuel rest
    else (String.utf8EncodeChar c).map (fun b => (b, false)) ++ setBytes fuel rest
  | fuel + 1, c :: rest =>
    (String.utf8EncodeChar c).map (fun b => (b, b == 45)) ++ setBytes fuel rest

/-- The bytes from one to another. -/
def byteRange (first last : UInt8) : List UInt8 :=
  allBytes.filter fun b => first ≤ b && b ≤ last

/-- A set with its ranges filled in. -/
def fillRanges : List (UInt8 × Bool) → List UInt8
  | (first, _) :: (_, true) :: (last, _) :: rest => byteRange first last ++ fillRanges rest
  | (b, _) :: rest => b :: fillRanges rest
  | [] => []

/-- A set of `tr`: characters, ranges and classes.  The fuel is the length of the text. -/
def byteSet : Nat → List Char → List UInt8
  | 0, _ => []
  | fuel + 1, cs =>
    match cutAt? "[:".toList cs with
    | none => fillRanges (setBytes cs.length cs)
    | some (before, rest) =>
      match cutAt? ":]".toList rest with
      | none => fillRanges (setBytes cs.length cs)
      | some (name, after) =>
        fillRanges (setBytes before.length before) ++
          ((byteClasses.find? fun (n, _) => n.toList = name).elim [] fun (_, test) =>
            allBytes.filter test) ++
          byteSet fuel after

/-- What a byte becomes when `source` is mapped to `target` place by place; the last byte of
the target stands for those that it lacks. -/
def transliterate : (source target : List UInt8) → (last : UInt8) → UInt8 → UInt8
  | [], _, _, b => b
  | s :: source, target, last, b =>
    let found := transliterate source target.tail (target.headD last) b
    if b = s && !source.contains b then target.headD last else found

/-- The bytes without repetitions of those in a set. -/
def squeeze (set : List UInt8) : List UInt8 → List UInt8
  | a :: b :: rest =>
    if a = b && set.contains a then squeeze set (b :: rest) else a :: squeeze set (b :: rest)
  | short => short

/-- The program `tr`. -/
def tr (call : Call) : Reply :=
  let options := call.arguments.takeWhile fun word => word.head? = some '-' && word.length > 1
  let letters := (options.map List.tail).flatten
  let has (c : Char) := letters.contains c
  let operands := call.arguments.drop options.length
  let hint := "\nTry 'tr --help' for more information."
  let set (text : List Char) := byteSet (text.length + 1) text
  let first (text : List Char) :=
    let plain := set text
    if has 'c' || has 'C' then allBytes.filter fun b => !plain.contains b else plain
  let input := call.input.getD []
  match operands with
  | [] => complain ("tr: missing operand" ++ hint)
  | [a] =>
    if has 'd' then { output := input.filter fun b => !(first a).contains b, drains := true }
    else if has 's' then { output := squeeze (first a) input, drains := true }
    else complain (s!"tr: missing operand after '{String.ofList a}'\n" ++
      "Two strings must be given when translating." ++ hint)
  | [a, b] =>
    if has 'd' then
      if has 's' then
        { output := squeeze (set b) (input.filter fun x => !(first a).contains x), drains := true }
      else complain (s!"tr: extra operand '{String.ofList b}'\n" ++
        "Only one string may be given when deleting without squeezing repeats." ++ hint)
    else
      match set b with
      | [] => complain "tr: when not truncating set1, string2 must be non-empty"
      | target =>
        let mapped := input.map (transliterate (first a) target 0)
        { output := if has 's' then squeeze target mapped else mapped, drains := true }
  | _ :: _ :: extra :: _ => complain (s!"tr: extra operand '{String.ofList extra}'" ++ hint)

end ModuleLoader.Process
