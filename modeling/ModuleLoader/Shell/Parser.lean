import ModuleLoader.Shell.Syntax

/-
Reading commands from tokens.

    list     = and-or { (";" | newline) and-or }
    and-or   = pipeline { ("&&" | "||") pipeline }
    pipeline = [ "!" ] command { "|" command }
    command  = simple | "(" list ")" | "{" list "}" | if | while | until | for

Reading goes down along the grammar.  The fuel bounds the depth of the descent; a script
with `n` tokens never goes deeper than a small multiple of `n`.
-/

namespace ModuleLoader.Shell.Parser

/-- Tokens with their lines. -/
abbrev Tokens := List (Token × Nat)

/-- Reading fails with a fault. -/
abbrev Read := Except SyntaxFault

/-- The words that have a meaning of their own where a command begins. -/
def reserved : List (List Char) :=
  ["if", "then", "else", "elif", "fi", "do", "done", "while", "until", "for", "in", "case",
   "esac", "!", "\x7b", "\x7d"].map String.toList

/-- How a token is called in a complaint. -/
def tokenText : Token → String
  | .newline => "newline"
  | .operator text => "\"" ++ String.ofList text ++ "\""
  | .descriptor _ => "redirection"
  | .word word =>
    match Word.bare? word with
    | some text => if reserved.contains text then "\"" ++ String.ofList text ++ "\"" else "word"
    | none => "word"

/-- A complaint about the next token. -/
def unexpected {α : Type} (expected : Option String) (last : Nat) : Tokens → Read α
  | (token, line) :: _ => .error (.unexpected line (tokenText token) expected)
  | [] => .error (.unexpected last "end of file" expected)

/-- Whether the next token is this operator. -/
def startsOperator (text : String) : Tokens → Bool
  | (.operator found, _) :: _ => found = text.toList
  | _ => false

/-- Whether the next token is this word, with nothing quoted. -/
def startsWord (text : String) : Tokens → Bool
  | (.word word, _) :: _ => Word.bare? word = some text.toList
  | _ => false

/-- Whether a line ends before the next token. -/
def startsNewline : Tokens → Bool
  | (.newline, _) :: _ => true
  | _ => false

/-- Drops the ends of lines. -/
def skipNewlines : Tokens → Tokens
  | (.newline, _) :: rest => skipNewlines rest
  | ts => ts

/-- Reads a word that has to come next. -/
def expectWord (text : String) (last : Nat) (ts : Tokens) : Read Tokens :=
  if startsWord text ts then .ok ts.tail
  else unexpected (some text) last ts

/-- An assignment in front of a command: the name and the value. -/
def assignment? : Word → Option (List Char × Word)
  | .text chars false :: rest =>
    let name := chars.takeWhile (· ≠ '=')
    let value := (chars.dropWhile (· ≠ '=')).drop 1
    if name.length < chars.length && !name.isEmpty && name.all Scan.isNameChar &&
        !(name.headD '0').isDigit then
      some (name, if value.isEmpty then rest else .text value false :: rest)
    else none
  | _ => none

/-- The redirection that an operator stands for, and the descriptor that it is about. -/
def redirectionOf? (text : List Char) : Option (RedirectionKind × Nat) :=
  ([("<", .input, 0), (">", .output, 1), (">|", .output, 1), (">>", .append, 1),
    (">&", .duplicate, 1), ("<&", .duplicate, 0)].find? fun entry => entry.1.toList = text).map
    fun entry => entry.2

/-- Reads a redirection, if one comes next. -/
def redirection? (last : Nat) : Tokens → Read (Option (Redirection × Tokens))
  | (.descriptor number, _) :: (.operator text, _) :: rest => read text (some number) rest
  | (.operator text, _) :: rest => read text none rest
  | _ => .ok none
where
  /-- Reads the target of a redirection. -/
  read (text : List Char) (number : Option Nat) (rest : Tokens) :
      Read (Option (Redirection × Tokens)) :=
    match redirectionOf? text, rest with
    | none, _ => .ok none
    | some (kind, usual), (.word target, _) :: rest =>
      .ok (some (⟨number.getD usual, kind, target⟩, rest))
    | some _, rest => unexpected none last rest

/-- What has been read of a simple command. -/
structure Simple where
  assignments : List (List Char × Word) := []
  words : List Word := []
  redirections : List Redirection := []

/-- Reads the words and redirections of a simple command. -/
def simple (last : Nat) : Nat → Simple → Tokens → Read (Simple × Tokens)
  | 0, found, ts => .ok (found, ts)
  | fuel + 1, found, ts =>
    match redirection? last ts with
    | .error fault => .error fault
    | .ok (some (r, rest)) =>
      simple last fuel { found with redirections := found.redirections ++ [r] } rest
    | .ok none =>
      match ts with
      | (.word word, _) :: rest =>
        match (if found.words.isEmpty then assignment? word else none) with
        | some a => simple last fuel { found with assignments := found.assignments ++ [a] } rest
        | none => simple last fuel { found with words := found.words ++ [word] } rest
      | (.operator ['('], _) :: rest =>
        if found.words.length = 1 then unexpected (some ")") last rest else unexpected none last ts
      | _ => .ok (found, ts)

/-- Reads redirections behind a command in brackets. -/
def redirections (last : Nat) : Nat → Tokens → Read (List Redirection × Tokens)
  | 0, ts => .ok ([], ts)
  | fuel + 1, ts =>
    match redirection? last ts with
    | .error fault => .error fault
    | .ok none => .ok ([], ts)
    | .ok (some (r, rest)) => (redirections last fuel rest).map fun (rs, ts) => (r :: rs, ts)

/-- Whether a list ends before the next token. -/
def endsList (ts : Tokens) : Bool :=
  ts.isEmpty || startsOperator ")" ts || startsOperator ";;" ts ||
    ["then", "else", "elif", "fi", "do", "done", "\x7d"].any fun word => startsWord word ts

mutual

/-- Reads commands up to a token that ends them, or up to the end of the line. -/
def list (last : Nat) : Nat → Bool → Tokens → Read (Script × Tokens)
  | 0, _, ts => .ok (.nothing, ts)
  | fuel + 1, oneLine, ts =>
    let ts := if oneLine then ts else skipNewlines ts
    if endsList ts || (oneLine && startsNewline ts) then .ok (.nothing, ts)
    else do
      let (first, ts) ← andOr last fuel ts
      if startsOperator ";" ts || (!oneLine && startsNewline ts) then
        let (more, ts) ← list last fuel oneLine ts.tail
        return (.sequence first more, ts)
      else return (first, ts)

/-- Reads pipelines between `&&` and `||`, which group to the left. -/
def andOr (last : Nat) : Nat → Tokens → Read (Script × Tokens)
  | 0, ts => .ok (.nothing, ts)
  | fuel + 1, ts => do
    let (first, ts) ← pipeline last fuel ts
    andOrMore last fuel first ts

/-- Reads what follows in a list of pipelines. -/
def andOrMore (last : Nat) : Nat → Script → Tokens → Read (Script × Tokens)
  | 0, left, ts => .ok (left, ts)
  | fuel + 1, left, ts =>
    if startsOperator "&&" ts then do
      let (right, ts) ← pipeline last fuel (skipNewlines ts.tail)
      andOrMore last fuel (.both left right) ts
    else if startsOperator "||" ts then do
      let (right, ts) ← pipeline last fuel (skipNewlines ts.tail)
      andOrMore last fuel (.either left right) ts
    else .ok (left, ts)

/-- Reads a pipeline. -/
def pipeline (last : Nat) : Nat → Tokens → Read (Script × Tokens)
  | 0, ts => .ok (.nothing, ts)
  | fuel + 1, ts =>
    if startsWord "!" ts then (pipeline last fuel ts.tail).map fun (s, ts) => (.negated s, ts)
    else do
      let (first, ts) ← command last fuel ts
      if startsOperator "|" ts then
        let (rest, ts) ← pipeline last fuel (skipNewlines ts.tail)
        return (.pipe first rest, ts)
      else return (first, ts)

/-- Reads one command. -/
def command (last : Nat) : Nat → Tokens → Read (Script × Tokens)
  | 0, ts => .ok (.nothing, ts)
  | fuel + 1, ts =>
    if startsOperator "(" ts then do
      let (body, ts) ← block last fuel ts.tail
      if !startsOperator ")" ts then unexpected (some ")") last ts
      else
        let (rs, ts) ← redirections last fuel ts.tail
        return (.subshell body rs, ts)
    else if startsWord "\x7b" ts then do
      let (body, ts) ← block last fuel ts.tail
      let ts ← expectWord "\x7d" last ts
      let (rs, ts) ← redirections last fuel ts
      return (.group body rs, ts)
    else if startsWord "if" ts then choice last fuel ts.tail
    else if startsWord "while" ts then loop last fuel false ts.tail
    else if startsWord "until" ts then loop last fuel true ts.tail
    else if startsWord "for" ts then each last fuel ts.tail
    else
      match ts with
      | (_, line) :: _ => do
        let (found, rest) ← simple last (ts.length + 1) {} ts
        if endsList ts || rest.length = ts.length then unexpected none last ts
        else return (.simple line found.assignments found.words found.redirections, rest)
      | [] => unexpected none last ts

/-- Reads a list that may not be empty. -/
def block (last : Nat) : Nat → Tokens → Read (Script × Tokens)
  | 0, ts => .ok (.nothing, ts)
  | fuel + 1, ts =>
    if endsList (skipNewlines ts) then unexpected none last (skipNewlines ts)
    else list last fuel false ts

/-- Reads a choice behind `if` or `elif`. -/
def choice (last : Nat) : Nat → Tokens → Read (Script × Tokens)
  | 0, ts => .ok (.nothing, ts)
  | fuel + 1, ts => do
    let (test, ts) ← block last fuel ts
    let ts ← expectWord "then" last ts
    let (yes, ts) ← block last fuel ts
    if startsWord "elif" ts then
      let (no, ts) ← choice last fuel ts.tail
      return (.choice test yes no, ts)
    else if startsWord "else" ts then
      let (no, ts) ← block last fuel ts.tail
      let ts ← expectWord "fi" last ts
      return (.choice test yes no, ts)
    else
      let ts ← expectWord "fi" last ts
      return (.choice test yes .nothing, ts)

/-- Reads a loop behind its first word. -/
def loop (last : Nat) : Nat → Bool → Tokens → Read (Script × Tokens)
  | 0, _, ts => .ok (.nothing, ts)
  | fuel + 1, inverted, ts => do
    let (test, ts) ← block last fuel ts
    let ts ← expectWord "do" last ts
    let (body, ts) ← block last fuel ts
    let ts ← expectWord "done" last ts
    return (.loop inverted test body, ts)

/-- Reads a loop over words behind `for`. -/
def each (last : Nat) : Nat → Tokens → Read (Script × Tokens)
  | 0, ts => .ok (.nothing, ts)
  | fuel + 1, ts =>
    match ts with
    | (.word word, _) :: rest => do
      let name := (Word.bare? word).getD []
      let rest := skipNewlines rest
      let (values, rest) ←
        if startsWord "in" rest then
          let (found, rest) ← simple last (rest.length + 1) {} rest.tail
          pure (some found.words, rest)
        else pure (none, rest)
      let rest := if startsOperator ";" rest then rest.tail else rest
      let ts ← expectWord "do" last (skipNewlines rest)
      let (body, ts) ← block last fuel ts
      let ts ← expectWord "done" last ts
      return (.each name values body, ts)
    | _ => unexpected none last ts

end

/-- Reads the commands of the next line that has any, with the rest of the script. -/
def line (last : Nat) (ts : Tokens) : Read (Script × Tokens) := do
  let ts := skipNewlines ts
  let (script, rest) ← list last (20 * (ts.length + 1)) true ts
  if rest.isEmpty || startsNewline rest then return (script, rest)
  else unexpected none last rest

end ModuleLoader.Shell.Parser
