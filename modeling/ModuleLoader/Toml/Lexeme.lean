import ModuleLoader.Toml.Basic
import ModuleLoader.Text.Split
import ModuleLoader.Text.Percent

/-
The words of a TOML document: blanks, comments, keys, strings, numbers and times.

Every reader takes the characters that are left and returns what it read with the rest,
or nothing if the text is not well formed at that place.
-/

namespace ModuleLoader.Toml

open Text

/-- Reads a beginning of the text. -/
abbrev Reader (α : Type) := List Char → Option (α × List Char)

/-! ### Blanks and comments -/

/-- A space or a tab. -/
def isSpace (c : Char) : Bool := c = ' ' || c = '\t'

/-- The text after spaces and tabs. -/
def skipSpace (cs : List Char) : List Char := cs.dropWhile isSpace

/-- Control characters other than the tab stand nowhere. -/
def isPrintable (c : Char) : Bool := c = '\t' || (c.toNat ≥ 0x20 && c.toNat ≠ 0x7F)

/-- The text after a line end. -/
def newline? : List Char → Option (List Char)
  | '\n' :: rest => some rest
  | '\r' :: '\n' :: rest => some rest
  | _ => none

/-- The text after a comment, whose line end is left. -/
def skipComment (cs : List Char) : List Char :=
  match cs with
  | '#' :: rest => rest.dropWhile isPrintable
  | _ => cs

/-- The text after blanks, comments and line ends; a comment has to end its line. -/
def skipLines (cs : List Char) : Option (List Char) := go cs.length cs
where
  /-- Every round consumes a line end. -/
  go : Nat → List Char → Option (List Char)
    | 0, cs => some (skipSpace cs)
    | n + 1, cs =>
      let rest := skipSpace cs
      match rest with
      | '#' :: _ => do
        let after ← newline? (skipComment rest)
        go n after
      | _ =>
        match newline? rest with
        | some after => go n after
        | none => if rest.head? = some '\r' then none else some rest

/-- The text after what may follow a statement on its line. -/
def lineEnd? (cs : List Char) : Option (List Char) :=
  match skipComment (skipSpace cs) with
  | [] => some []
  | rest => newline? rest

/-! ### Strings -/

/-- The character of a code point given by exactly `count` hexadecimal digits. -/
def codePoint (count : Nat) : Reader Char := fun cs => do
  let digits := cs.take count
  if digits.length ≠ count then none
  let n ← digits.foldlM (fun n c => (Percent.hexValue? c).map (n * 16 + ·)) 0
  if h : n.isValidChar then return (Char.ofNatAux n h, cs.drop count) else none

/-- The character that an escape stands for; the backslash is read already. -/
def escape : Reader Char
  | 'b' :: r => some ('\x08', r)
  | 't' :: r => some ('\t', r)
  | 'n' :: r => some ('\n', r)
  | 'f' :: r => some ('\x0C', r)
  | 'r' :: r => some ('\r', r)
  | '"' :: r => some ('"', r)
  | '\\' :: r => some ('\\', r)
  | 'u' :: r => codePoint 4 r
  | 'U' :: r => codePoint 8 r
  | _ => none

/-- The rest of a string on one line between double quotes. -/
def basicBody : Nat → List Char → Reader String
  | 0, _, _ => none
  | n + 1, acc, cs =>
    match cs with
    | '"' :: r => some (String.ofList acc.reverse, r)
    | '\\' :: r => do
      let (c, r) ← escape r
      basicBody n (c :: acc) r
    | c :: r => if isPrintable c then basicBody n (c :: acc) r else none
    | [] => none

/-- The rest of a string on one line between single quotes, which has no escapes. -/
def literalBody (cs : List Char) : Option (String × List Char) := do
  let (body, rest) ← cut? '\'' cs
  if body.all isPrintable then return (String.ofList body, rest) else none

/-- A run of quotes in a string of several lines: up to two are text, three close it, and
up to two text quotes may stand before the closing ones. -/
def closingQuotes (mark : Char) (cs : List Char) : Option (List Char × Bool × List Char) :=
  let run := (cs.takeWhile (· = mark)).length
  if run = 0 then none
  else if run < 3 then some (List.replicate run mark, false, cs.drop run)
  else if run ≤ 5 then some (List.replicate (run - 3) mark, true, cs.drop run)
  else some (List.replicate 2 mark, true, cs.drop 5)

/-- The text after a backslash that joins lines: the line end and all blanks after it. -/
def joinedLine? (cs : List Char) : Option (List Char) := do
  let after ← newline? (skipSpace cs)
  let rec go : Nat → List Char → List Char
    | 0, cs => cs
    | n + 1, cs =>
      match newline? (skipSpace cs) with
      | some after => go n after
      | none => skipSpace cs
  return go after.length after

/-- The rest of a string of several lines between triple double quotes. -/
def multilineBasicBody : Nat → List Char → Reader String
  | 0, _, _ => none
  | n + 1, acc, cs =>
    match closingQuotes '"' cs with
    | some (quotes, true, rest) => some (String.ofList (acc.reverse ++ quotes), rest)
    | some (quotes, false, rest) => multilineBasicBody n (quotes ++ acc) rest
    | none =>
      match cs with
      | '\\' :: r =>
        match joinedLine? r with
        | some r => multilineBasicBody n acc r
        | none => do
          let (c, r) ← escape r
          multilineBasicBody n (c :: acc) r
      | c :: r =>
        match newline? cs with
        | some r => multilineBasicBody n ('\n' :: acc) r
        | none => if isPrintable c then multilineBasicBody n (c :: acc) r else none
      | [] => none

/-- The rest of a string of several lines between triple single quotes. -/
def multilineLiteralBody : Nat → List Char → Reader String
  | 0, _, _ => none
  | n + 1, acc, cs =>
    match closingQuotes '\'' cs with
    | some (quotes, true, rest) => some (String.ofList (acc.reverse ++ quotes), rest)
    | some (quotes, false, rest) => multilineLiteralBody n (quotes ++ acc) rest
    | none =>
      match cs with
      | c :: r =>
        match newline? cs with
        | some r => multilineLiteralBody n ('\n' :: acc) r
        | none => if isPrintable c then multilineLiteralBody n (c :: acc) r else none
      | [] => none

/-- A line end right after opening quotes is no part of the string. -/
def dropFirstNewline (cs : List Char) : List Char := (newline? cs).getD cs

/-- A string in any of its four forms. -/
def string : Reader String
  | '"' :: '"' :: '"' :: r =>
    let r := dropFirstNewline r
    multilineBasicBody (r.length + 1) [] r
  | '\'' :: '\'' :: '\'' :: r =>
    let r := dropFirstNewline r
    multilineLiteralBody (r.length + 1) [] r
  | '"' :: r => basicBody (r.length + 1) [] r
  | '\'' :: r => literalBody r
  | _ => none

/-! ### Keys -/

/-- A character of a key without quotes. -/
def isBare (c : Char) : Bool := c.isAlphanum || c = '-' || c = '_'

/-- A key without dots. -/
def simpleKey : Reader String
  | '"' :: r => basicBody (r.length + 1) [] r
  | '\'' :: r => literalBody r
  | cs =>
    let name := cs.takeWhile isBare
    if name.isEmpty then none else some (String.ofList name, cs.dropWhile isBare)

/-- Keys between dots; blanks may stand around every one. -/
def dottedKey (cs : List Char) : Option (List String × List Char) := go (cs.length + 1) cs
where
  go : Nat → List Char → Option (List String × List Char)
    | 0, _ => none
    | n + 1, cs => do
      let (key, rest) ← simpleKey (skipSpace cs)
      let rest := skipSpace rest
      match rest with
      | '.' :: rest => do
        let (keys, rest) ← go n rest
        return (key :: keys, rest)
      | _ => return ([key], rest)

/-- No key has this many parts, and no value is nested this deep. -/
def depthLimit : Nat := 80

/-- A dotted key as the path to its last part and that part. -/
def keyPath (cs : List Char) : Option (List String × String × List Char) := do
  let (keys, rest) ← dottedKey cs
  if keys.length ≥ depthLimit then none
  let last ← keys.getLast?
  return (keys.dropLast, last, rest)

/-! ### Numbers -/

/-- Digits of one kind with single underscores between them. -/
def digitGroups (isDigit : Char → Bool) (cs : List Char) : Option (List Char × List Char) :=
  match cs with
  | c :: r => if isDigit c then go r.length [c] r else none
  | [] => none
where
  /-- The digits read so far are held backwards. -/
  go : Nat → List Char → List Char → Option (List Char × List Char)
    | 0, acc, cs => some (acc.reverse, cs)
    | n + 1, acc, cs =>
      match cs with
      | '_' :: d :: r => if isDigit d then go n (d :: acc) r else none
      | '_' :: [] => none
      | d :: r => if isDigit d then go n (d :: acc) r else some (acc.reverse, cs)
      | [] => some (acc.reverse, [])

/-- The number that digits spell. -/
def digitsValue (base : Nat) (digits : List Char) : Nat :=
  digits.foldl (fun n c => n * base + (Percent.hexValue? c).getD 0) 0

/-- A sign, if there is one: whether it is a minus, and the rest. -/
def sign : List Char → Bool × List Char
  | '-' :: r => (true, r)
  | '+' :: r => (false, r)
  | r => (false, r)

/-- Decimal digits without a leading zero. -/
def decimal (cs : List Char) : Option (List Char × List Char) :=
  match cs with
  | '0' :: r => some (['0'], r)
  | _ => digitGroups Char.isDigit cs

/-- An integer that fits sixty-four bits. -/
def integer (cs : List Char) : Option (Item × List Char) :=
  let based (base : Nat) (isDigit : Char → Bool) (r : List Char) : Option (Item × List Char) := do
    let (digits, rest) ← digitGroups isDigit r
    let n := digitsValue base digits
    if n < Nat.pow 2 63 then return (.integer n, rest) else none
  match cs with
  | '0' :: 'x' :: r => based 16 (fun c => (Percent.hexValue? c).isSome) r
  | '0' :: 'o' :: r => based 8 (fun c => '0' ≤ c && c ≤ '7') r
  | '0' :: 'b' :: r => based 2 (fun c => c = '0' || c = '1') r
  | _ => do
    let (negative, r) := sign cs
    let (digits, rest) ← decimal r
    let n := digitsValue 10 digits
    if n < Nat.pow 2 63 || (negative && n = Nat.pow 2 63) then
      return (.integer (if negative then -(n : Int) else n), rest)
    else none

/-- Whether `digits` × 10 ^ `exponent` is past the greatest finite double: at least
2¹⁰²⁴ − 2⁹⁷⁰, from where on the nearest double is infinite. -/
def overflows (digits : List Char) (exponent : Int) : Bool :=
  let significant := digits.dropWhile (· = '0')
  let magnitude : Int := significant.length + exponent
  if significant.isEmpty || magnitude < 300 then false
  else if magnitude > 320 then true
  else
    let n := digitsValue 10 significant
    let limit := Nat.pow 2 1024 - Nat.pow 2 970
    if exponent ≥ 0 then n * Nat.pow 10 exponent.toNat ≥ limit
    else n ≥ limit * Nat.pow 10 (-exponent).toNat

/-- A number with a fraction or an exponent, or one of the words `inf` and `nan`. -/
def float (cs : List Char) : Option (Item × List Char) :=
  let (negative, r) := sign cs
  match r with
  | 'i' :: 'n' :: 'f' :: rest => some (.float, rest)
  | 'n' :: 'a' :: 'n' :: rest => some (.float, rest)
  | _ => do
    let (whole, r) ← decimal r
    let (fraction, r, hasFraction) ← match r with
      | '.' :: r => do
        let (digits, r) ← digitGroups Char.isDigit r
        pure (digits, r, true)
      | r => pure ([], r, false)
    let (exponent, r, hasExponent) ← match r with
      | e :: r' =>
        if e = 'e' ∨ e = 'E' then do
          let (minus, r') := sign r'
          let (digits, r') ← digitGroups Char.isDigit r'
          let n : Int := digitsValue 10 digits
          pure (if minus then -n else n, r', true)
        else pure (0, r, false)
      | [] => pure (0, [], false)
    if !hasFraction && !hasExponent then none
    if !negative && overflows (whole ++ fraction) (exponent - fraction.length) then none
    return (.float, r)

/-! ### Dates and times -/

/-- A number of exactly `count` decimal digits. -/
def fixedDigits (count : Nat) : Reader Nat := fun cs =>
  let digits := cs.take count
  if digits.length = count && digits.all Char.isDigit then
    some (digitsValue 10 digits, cs.drop count)
  else none

/-- The number of days of a month. -/
def daysOf (year month : Nat) : Nat :=
  if month = 2 then
    if year % 4 = 0 ∧ (year % 100 ≠ 0 ∨ year % 400 = 0) then 29 else 28
  else if month ∈ [4, 6, 9, 11] then 30 else 31

/-- Reads one given character. -/
def char (c : Char) : List Char → Option (List Char)
  | d :: r => if c = d then some r else none
  | [] => none

/-- Year, month and day. -/
def date (cs : List Char) : Option (List Char) := do
  let (year, r) ← fixedDigits 4 cs
  let r ← char '-' r
  let (month, r) ← fixedDigits 2 r
  let r ← char '-' r
  let (day, r) ← fixedDigits 2 r
  if 1 ≤ month ∧ month ≤ 12 ∧ 1 ≤ day ∧ day ≤ daysOf year month then some r else none

/-- Hour, minute and second, which may have a fraction. -/
def clock (cs : List Char) : Option (List Char) := do
  let (hour, r) ← fixedDigits 2 cs
  let r ← char ':' r
  let (minute, r) ← fixedDigits 2 r
  let r ← char ':' r
  let (second, r) ← fixedDigits 2 r
  if hour > 23 ∨ minute > 59 ∨ second > 60 then none
  match r with
  | '.' :: d :: rest => if d.isDigit then some (rest.dropWhile Char.isDigit) else some r
  | _ => some r

/-- The distance from universal time, if it is given. -/
def offset (cs : List Char) : Option (List Char) :=
  let signed (r : List Char) := do
    let (hour, r) ← fixedDigits 2 r
    let r ← char ':' r
    let (minute, r) ← fixedDigits 2 r
    if hour > 23 ∨ minute > 59 then none else some r
  match cs with
  | 'Z' :: r => some r
  | 'z' :: r => some r
  | '+' :: r => signed r
  | '-' :: r => signed r
  | _ => some cs

/-- Whether a text begins like a date: four digits and a hyphen. -/
def beginsDate (cs : List Char) : Bool :=
  match fixedDigits 4 cs with
  | some (_, '-' :: _) => true
  | _ => false

/-- Whether a text begins like a time of day: an hour and a colon. -/
def beginsClock (cs : List Char) : Bool :=
  match fixedDigits 2 cs with
  | some (hour, ':' :: _) => hour ≤ 23
  | _ => false

/-- A date with or without a time of day, or a time of day alone. -/
def time (cs : List Char) : Option (Item × List Char) :=
  if beginsDate cs then do
    let r ← date cs
    match r with
    | d :: r' =>
      if (d = 'T' ∨ d = 't' ∨ d = ' ') ∧ beginsClock r' then do
        let r' ← clock r'
        let r' ← offset r'
        return (.time, r')
      else return (.time, r)
    | [] => return (.time, [])
  else do
    let r ← clock cs
    return (.time, r)

end ModuleLoader.Toml
