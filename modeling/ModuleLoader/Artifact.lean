import ModuleLoader.LoadError
import ModuleLoader.Text.Quoted

/-
Artifacts: modules that have been found, each with its identity and its text.

What the loader hands out it mostly keeps as well, on a shelf of its own for every key, so
that a later request gets the very same artifact again.  An artifact that is handed out
together with the shelf it is kept on shows which results are one and the same.
-/

namespace ModuleLoader

/-- A stream of bytes that may break off with an error. -/
structure Body where
  bytes : ByteArray
  failure : Option IoError := none

/-- A module that has been found. -/
structure Artifact where
  /-- The URL or logical path by which the module is known. -/
  uri : String
  contents : String
  deriving Repr, DecidableEq

namespace Artifact

/-- The artifact that a stream of text holds. -/
def ofBody (uri : String) (body : Body) : Except LoadError Artifact :=
  match body.failure with
  | some cause => .error (.io uri cause)
  | none =>
    match Text.Utf8.decode body.bytes with
    | .ok contents => .ok ⟨uri, contents⟩
    | .error fault => .error (.io uri (.illFormedText fault))

/-- The contents as bytes. -/
def bytes (artifact : Artifact) : ByteArray := artifact.contents.toUTF8

/-- The number of bytes of the contents. -/
def size (artifact : Artifact) : Nat := artifact.contents.utf8ByteSize

/-- Chunks of the given sizes from the beginning of some bytes, and what is left. -/
def readChunks (bytes : ByteArray) : List Nat → List ByteArray × ByteArray
  | [] => ([], bytes)
  | size :: sizes =>
    let (chunks, rest) := readChunks (bytes.extract size bytes.size) sizes
    (bytes.extract 0 size :: chunks, rest)

/-- The identity and the size on one line. -/
def summary (artifact : Artifact) : String :=
  "SourceArtifact \x7b uri: " ++ Text.quote artifact.uri ++ s!", len: {artifact.size} \x7d"

end Artifact

/-- Where the loader keeps an artifact. -/
inductive Shelf where
  /-- As found, under the name that was asked for. -/
  | raw (key : String)
  /-- As compiled, under the identity of the source. -/
  | compiled (source : String)
  deriving Repr, DecidableEq

/-- An artifact that was handed out, and where it is kept, if it is. -/
structure Found where
  artifact : Artifact
  shelf : Option Shelf
  deriving Repr, DecidableEq

/-- Whether two results are the very same kept artifact. -/
def Found.isSame (a b : Found) : Bool := a.shelf.isSome && a.shelf = b.shelf

end ModuleLoader
