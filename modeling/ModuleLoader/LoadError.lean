import ModuleLoader.IoError
import ModuleLoader.Reference
import ModuleLoader.Diagnostic

/-
What can go wrong when a module is found, compiled and run.

That a module does not exist is no error.
-/

namespace ModuleLoader

/-- Why a module could not be loaded. -/
inductive LoadError where
  /-- A reference cannot be resolved. -/
  | malformed (cause : Reference.Malformed)
  /-- A resource exists but cannot be read. -/
  | io (resource : String) (cause : IoError)
  /-- The compiler refuses a source. -/
  | compilation (cause : CompilationError)
  /-- A module failed when it ran; the cause is the text of its error. -/
  | execution (specifier : String) (cause : String)
  deriving Repr, DecidableEq

/-- An error in words. -/
def LoadError.message : LoadError → String
  | malformed cause => s!"Malformed reference '{cause.reference}': {cause.fault.message}"
  | io resource cause => s!"I/O error reading {resource}: {cause.message}"
  | compilation cause => cause.output
  | execution specifier cause => s!"Error loading {specifier}: {cause}"

/-- Whether bytes could not be read. -/
def LoadError.isIo : LoadError → Bool
  | io _ _ => true
  | _ => false

end ModuleLoader
