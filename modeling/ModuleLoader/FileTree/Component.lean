import ModuleLoader.FileTree

/-
Components of a path.

A path is read as a row of components: the root, `..` and names.  Slashes that are repeated or at
the end make no component, and `.` makes one only at the beginning of a path that does not start
at the root.
-/

namespace ModuleLoader.FileTree

/-- A part of a path that counts. -/
inductive Component where
  | root
  /-- The directory that the path is used in. -/
  | here
  | up
  | name (text : String)
  deriving Repr, DecidableEq

/-- Whether a path that consists of such components stays where it is used. -/
def Component.isContained : Component → Bool
  | .here | .name _ => true
  | .root | .up => false

/-- The component that a name of a path makes, wherever it stands. -/
def component? (name : String) : Option Component :=
  if name = "" ∨ name = "." then none
  else if name = ".." then some .up
  else some (.name name)

/-- The component that only the beginning of a path makes. -/
def start (path : String) : List Component :=
  if isRooted path then [.root]
  else if (names path).head? = some "." then [.here]
  else []

/-- The components of a path in order. -/
def components (path : String) : List Component := start path ++ (names path).filterMap component?

/-- Whether a name may follow a path at once: it is empty or ends in a slash. -/
def isClosed (path : String) : Bool := path.toList.getLast?.all (· == '/')

/-- The text of a path that is followed from where another one leads.  A path from the root
stands for itself. -/
def joinPath (path below : String) : String :=
  if isRooted below then below
  else if isClosed path then path ++ below
  else path ++ "/" ++ below

end ModuleLoader.FileTree
