/-
The words and operators of a shell script.

A script is read character by character.  What has been read of the current token is kept in
a `Mode`, so that reading is a fold over the characters and needs no look ahead: a character
that cannot go on with what has begun ends it and is then read afresh.

A word is a list of pieces.  Quoting matters after expansion, so every piece remembers
whether it stood between quotes.
-/

namespace ModuleLoader.Shell

/-- A part of a word. -/
inductive Piece where
  | text (chars : List Char) (quoted : Bool)
  /-- The value of a variable or parameter. -/
  | parameter (name : List Char) (quoted : Bool)
  /-- What a script writes. -/
  | output (script : List Char) (quoted : Bool)
  deriving Repr, DecidableEq

/-- A word before expansion. -/
abbrev Word := List Piece

/-- A word, an operator or the end of a line. -/
inductive Token where
  | word (word : Word)
  /-- The descriptor that the redirection behind it is about. -/
  | descriptor (number : Nat)
  | operator (text : List Char)
  | newline
  deriving Repr, DecidableEq

/-- What reading is in the middle of. -/
inductive Mode where
  | plain
  /-- Behind a backslash; `quoted` tells whether between double quotes. -/
  | backslash (quoted : Bool)
  | single (chars : List Char)
  | double (chars : List Char) (fresh : Bool)
  | dollar (quoted : Bool)
  | name (chars : List Char) (quoted : Bool)
  | braced (chars : List Char) (quoted : Bool)
  /-- Inside a command substitution, `depth` parentheses deep. -/
  | nested (depth : Nat) (quote : Option Char) (chars : List Char) (quoted : Bool)
  | backquote (chars : List Char) (quoted : Bool)
  | operator (chars : List Char)
  | comment
  deriving Repr, DecidableEq

/-- What has been read. -/
structure Scan where
  mode : Mode := .plain
  /-- The pieces of the current word, last first; there is none between words. -/
  word : Option (List Piece) := none
  /-- The tokens with the lines that they end on, last first. -/
  tokens : List (Token × Nat) := []
  line : Nat := 1

namespace Scan

/-- Appends a piece to the current word, which begins with it if there is none. -/
def add (piece : Piece) (s : Scan) : Scan :=
  match s.word, piece with
  | some (.text before false :: rest), .text after false =>
    { s with word := some (.text (before ++ after) false :: rest) }
  | word, piece => { s with word := some (piece :: word.getD []) }

/-- Ends the current word. -/
def endWord (s : Scan) : Scan :=
  match s.word with
  | some pieces => { s with word := none, tokens := (.word pieces.reverse, s.line) :: s.tokens }
  | none => s

/-- Appends a token. -/
def push (token : Token) (s : Scan) : Scan := { s with tokens := (token, s.line) :: s.tokens }

/-- The operators, longer ones included. -/
def operators : List (List Char) :=
  ["&", "&&", "|", "||", ";", ";;", "(", ")", "<", ">", ">>", "<<", ">&", "<&", ">|", "<>"].map
    String.toList

/-- Ends a word before a redirection.  A word of digits alone is the descriptor that the
redirection is about. -/
def endBeforeOperator (c : Char) (s : Scan) : Scan :=
  match s.word with
  | some [.text digits false] =>
    if (c = '<' || c = '>') && !digits.isEmpty && digits.all Char.isDigit then
      { s with word := none }.push (.descriptor ((String.ofList digits).toNat?.getD 0))
    else s.endWord
  | _ => s.endWord

/-- The characters of a name. -/
def isNameChar (c : Char) : Bool := c.isAlphanum || c = '_'

/-- Names of a single character. -/
def isSpecialName (c : Char) : Bool := c.isDigit || "@*#?$!-".toList.contains c

/-- Reads a character outside quotes. -/
def plain (s : Scan) (c : Char) : Scan :=
  match c with
  | '\\' => { s with mode := .backslash false }
  | '\'' => { s with mode := .single [] }
  | '"' => { s with mode := .double [] true }
  | '$' => { s with mode := .dollar false }
  | '\x60' => { s with mode := .backquote [] false }
  | '\n' => let s := s.endWord.push .newline; { s with line := s.line + 1 }
  | ' ' | '\t' => s.endWord
  | '#' => if s.word.isNone then { s with mode := .comment } else s.add (.text [c] false)
  | _ =>
    if operators.contains [c] then { s.endBeforeOperator c with mode := .operator [c] }
    else s.add (.text [c] false)

/-- Ends a stretch between double quotes. -/
def endDouble (chars : List Char) (s : Scan) : Scan :=
  if chars.isEmpty then s else s.add (.text chars.reverse true)

/-- Reads a character between double quotes. -/
def double (s : Scan) (chars : List Char) (fresh : Bool) (c : Char) : Scan :=
  match c with
  | '"' =>
    let s := if fresh && chars.isEmpty then s.add (.text [] true) else s.endDouble chars
    { s with mode := .plain }
  | '$' => { s.endDouble chars with mode := .dollar true }
  | '\x60' => { s.endDouble chars with mode := .backquote [] true }
  | '\\' => { s.endDouble chars with mode := .backslash true }
  | _ => { s with mode := .double (c :: chars) fresh }

/-- The mode outside or inside double quotes. -/
def back (quoted : Bool) (s : Scan) : Scan :=
  { s with mode := if quoted then .double [] false else .plain }

/-- Reads a character in the mode that `back` restores. -/
def again (quoted : Bool) (s : Scan) (c : Char) : Scan :=
  if quoted then double s [] false c else plain { s with mode := .plain } c

/-- Reads a character. -/
def step (s : Scan) (c : Char) : Scan :=
  let s := if c = '\n' && s.mode ≠ .plain && s.mode ≠ .comment then
    match s.mode with
    | .operator _ => s
    | _ => { s with line := s.line + 1 }
    else s
  match s.mode with
  | .plain => s.plain c
  | .backslash false =>
    if c = '\n' then s.back false else (s.add (.text [c] true)).back false
  | .backslash true =>
    if c = '\n' then s.back true
    else if "$\"\\\x60".toList.contains c then (s.add (.text [c] true)).back true
    else (s.add (.text ['\\', c] true)).back true
  | .single chars =>
    if c = '\'' then (s.add (.text chars.reverse true)).back false
    else { s with mode := .single (c :: chars) }
  | .double chars fresh => s.double chars fresh c
  | .dollar quoted =>
    if c = '\x7b' then { s with mode := .braced [] quoted }
    else if c = '(' then { s with mode := .nested 0 none [] quoted }
    else if isSpecialName c then (s.add (.parameter [c] quoted)).back quoted
    else if isNameChar c then { s with mode := .name [c] quoted }
    else again quoted (s.add (.text ['$'] quoted)) c
  | .name chars quoted =>
    if isNameChar c then { s with mode := .name (c :: chars) quoted }
    else again quoted (s.add (.parameter chars.reverse quoted)) c
  | .braced chars quoted =>
    if c = '\x7d' then (s.add (.parameter chars.reverse quoted)).back quoted
    else { s with mode := .braced (c :: chars) quoted }
  | .nested depth quote chars quoted =>
    match quote with
    | some q =>
      { s with mode := .nested depth (if c = q then none else some q) (c :: chars) quoted }
    | none =>
      if c = '\'' || c = '"' then { s with mode := .nested depth (some c) (c :: chars) quoted }
      else if c = '(' then { s with mode := .nested (depth + 1) none (c :: chars) quoted }
      else if c = ')' then
        match depth with
        | 0 => (s.add (.output chars.reverse quoted)).back quoted
        | depth + 1 => { s with mode := .nested depth none (c :: chars) quoted }
      else { s with mode := .nested depth none (c :: chars) quoted }
  | .backquote chars quoted =>
    if c = '\x60' then (s.add (.output chars.reverse quoted)).back quoted
    else { s with mode := .backquote (c :: chars) quoted }
  | .operator chars =>
    if operators.contains (chars ++ [c]) then
      { s.push (.operator (chars ++ [c])) with mode := .plain }
    else plain { s.push (.operator chars) with mode := .plain } c
  | .comment => if c = '\n' then plain { s with mode := .plain } c else s

/-- Ends the script. -/
def finish (s : Scan) : Option Scan :=
  match s.mode with
  | .plain | .comment => some s.endWord
  | .operator chars => some (s.push (.operator chars))
  | .name chars false => some (s.add (.parameter chars.reverse false)).endWord
  | .dollar false => some (s.add (.text ['$'] false)).endWord
  | .backslash false => some (s.add (.text ['\\'] true)).endWord
  | _ => none

end Scan

/-- The tokens of a script with their lines, or the last line of a script in which a quote
is never closed. -/
def tokens (script : List Char) : Except Nat (List (Token × Nat)) :=
  let s := script.foldl Scan.step {}
  match s.finish with
  | some s => .ok s.tokens.reverse
  | none => .error s.line

/-- The text of a word in which nothing is quoted or expanded. -/
def Word.bare? : Word → Option (List Char)
  | [.text chars false] => some chars
  | _ => none

end ModuleLoader.Shell
