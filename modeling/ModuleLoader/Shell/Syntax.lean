import ModuleLoader.Shell.Token

/-
Commands of the shell.
-/

namespace ModuleLoader.Shell

/-- What a redirection does. -/
inductive RedirectionKind where
  | input
  | output
  | append
  | duplicate
  deriving Repr, DecidableEq

/-- A change of where a descriptor leads. -/
structure Redirection where
  descriptor : Nat
  kind : RedirectionKind
  target : Word
  deriving Repr, DecidableEq

/-- A command. -/
inductive Script where
  | nothing
  | simple (line : Nat) (assignments : List (List Char × Word)) (words : List Word)
      (redirections : List Redirection)
  | pipe (left right : Script)
  | negated (body : Script)
  | both (left right : Script)
  | either (left right : Script)
  | sequence (first second : Script)
  | subshell (body : Script) (redirections : List Redirection)
  | group (body : Script) (redirections : List Redirection)
  | choice (test yes no : Script)
  /-- Repeats the body as long as the test succeeds, or fails if `inverted`. -/
  | loop (inverted : Bool) (test body : Script)
  | each (name : List Char) (values : Option (List Word)) (body : Script)

/-- Why a script cannot be read. -/
inductive SyntaxFault where
  | openQuote (line : Nat)
  /-- A token that cannot stand where it stands, and what was expected instead. -/
  | unexpected (line : Nat) (found : String) (expected : Option String)
  deriving Repr, DecidableEq

/-- A fault in words, with the line that it is on. -/
def SyntaxFault.message : SyntaxFault → Nat × String
  | openQuote line => (line, "Syntax error: Unterminated quoted string")
  | unexpected line found expected =>
    (line, s!"Syntax error: {found} unexpected" ++
      (expected.map fun e => " (expecting \"" ++ e ++ "\")").getD "")

end ModuleLoader.Shell
