import ModuleLoader.Path
import ModuleLoader.Url.Parser

/-
References between modules.

The identity of a module is a URL or a logical path inside an archive.  A reference is
resolved in the same way against both: a URL joins it, a logical path puts it in place of
its last segment and follows the dot segments.
-/

namespace ModuleLoader.Reference

open Text

/-- Why a reference leads nowhere. -/
inductive Fault where
  | notUrl (fault : UrlFault)
  | notLocal
  deriving Repr, DecidableEq

/-- A fault in words. -/
def Fault.message : Fault → String
  | notUrl fault => fault.message
  | notLocal => "not a local file path"

/-- A reference that cannot be resolved, and why. -/
structure Malformed where
  reference : String
  fault : Fault
  deriving Repr, DecidableEq

/-- A reference that begins with `./` or `../`. -/
def isRelativeChars (cs : List Char) : Bool :=
  (dropStart? "./".toList cs).isSome || (dropStart? "../".toList cs).isSome

/-- A reference that begins with `./` or `../` is relative to the module that holds it. -/
def isRelative (specifier : String) : Bool := isRelativeChars specifier.toList

/-- A lower-case word, a colon and a slash. -/
def looksLikeUrlChars (cs : List Char) : Bool :=
  match cut? ':' cs with
  | some (scheme, rest) => !scheme.isEmpty && scheme.all Char.isLower && rest.head? = some '/'
  | none => false

/-- A lower-case word, a colon and a slash are taken for the beginning of a URL. -/
def looksLikeUrl (specifier : String) : Bool := looksLikeUrlChars specifier.toList

/-- A text that begins with a scheme. -/
def isAbsoluteChars (cs : List Char) : Bool :=
  match cut? ':' cs with
  | some (c :: scheme, _) => c.isAlpha && scheme.all Url.isSchemeChar
  | _ => false

/-- An identity with a scheme is a URL; every other one is a logical path. -/
def isAbsolute (uri : String) : Bool := isAbsoluteChars uri.toList

/-- A reference resolved against a logical path. -/
def resolveLogical (base reference : List Char) : List Char :=
  if Path.isRooted reference then Path.normalizeChars reference
  else Path.normalizeChars (Path.directory base ++ reference)

/-- The identity that `reference` means in a module whose identity is `base`. -/
def resolve (base reference : String) : Except Malformed String :=
  if isAbsolute reference then .ok reference
  else if isAbsolute base then
    match Url.parse base with
    | .error fault => .error ⟨base, .notUrl fault⟩
    | .ok url =>
      if url.isRootless then .ok reference
      else
        match url.joinReference reference with
        | .ok joined => .ok joined.text
        | .error fault => .error ⟨reference, .notUrl fault⟩
  else .ok (String.ofList (resolveLogical base.toList reference.toList))

end ModuleLoader.Reference
