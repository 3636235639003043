import ModuleLoader.Artifact
import ModuleLoader.FileTree.Component
import ModuleLoader.Zip.Bundle

/-
Providers of packaged resources.

A provider opens resources by exact name: from memory, from a directory, from a zip bundle,
or in a way of the host's own.  A resource that does not exist is no error.

A directory would fail on a file that may not be read.  The tree of files has no permissions, so
this does not arise, and of the providers only a bundle and the host's own ones ever fail.
-/

namespace ModuleLoader

/-- Something that opens resources by name. -/
inductive Provider where
  | memory (files : List (String × ByteArray))
  | directory (root : String)
  | zip (bundle : Zip.Bundle)
  | custom (open? : String → Except IoError (Option Body))

namespace Provider

open Text

/-- The files of a memory provider with one more; an equal name is replaced. -/
def insertFile (name : String) (bytes : ByteArray) :
    List (String × ByteArray) → List (String × ByteArray)
  | [] => [(name, bytes)]
  | (n, b) :: rest => if n = name then (n, bytes) :: rest else (n, b) :: insertFile name bytes rest

/-- A memory provider of some files; a later one replaces an earlier one of that name. -/
def ofFiles (files : List (String × ByteArray)) : Provider :=
  .memory (files.foldl (fun kept (name, bytes) => insertFile name bytes kept) [])

/-- Adds a file to a memory provider. -/
def insert (name : String) (bytes : ByteArray) : Provider → Provider
  | .memory files => .memory (insertFile name bytes files)
  | other => other

/-- The path of a resource in the directory `root`.  There is none for a name that starts at
the root or goes up, since it could lead out of the directory. -/
def locate (root name : String) : Option String :=
  if (FileTree.components name).all FileTree.Component.isContained then
    some (FileTree.joinPath root name)
  else none

/-- Opens a resource of a directory. -/
def openFile (tree : FileTree) (root name : String) : Except IoError (Option Body) :=
  match locate root name with
  | none => .ok none
  | some located =>
    let path := FileTree.names located
    if tree.isFile path then (tree.read path).map fun bytes => some ⟨bytes, none⟩
    else .ok none

/-- Opens a resource. -/
def openName (tree : FileTree) (name : String) : Provider → Except IoError (Option Body)
  | .memory files => .ok ((files.lookup name).map fun bytes => ⟨bytes, none⟩)
  | .directory root => openFile tree root name
  | .zip bundle => (bundle.open? name).map fun found => found.map fun bytes => ⟨bytes, none⟩
  | .custom open? => open? name

end Provider

/-- Providers in order of precedence. -/
structure ResourceSpace where
  providers : List Provider := []

namespace ResourceSpace

/-- The first of two failures. -/
def firstFailure (held : Option IoError) (e : IoError) : Option IoError :=
  some (held.getD e)

/-- Opens a resource with the first provider that has it.  A provider that fails does not
hide the ones after it; the first failure counts if none has the resource. -/
def openFrom (tree : FileTree) (name : String) (held : Option IoError) :
    List Provider → Except IoError (Option Body)
  | [] =>
    match held with
    | some e => .error e
    | none => .ok none
  | provider :: rest =>
    match provider.openName tree name with
    | .ok (some body) => .ok (some body)
    | .ok none => openFrom tree name held rest
    | .error e => openFrom tree name (firstFailure held e) rest

/-- Opens a resource with the first provider that has it. -/
def openName (space : ResourceSpace) (tree : FileTree) (name : String) :
    Except IoError (Option Body) :=
  openFrom tree name none space.providers

/-- The number of providers. -/
def size (space : ResourceSpace) : Nat := space.providers.length

/-- The space with a change to the provider at an index. -/
def modify (space : ResourceSpace) (index : Nat) (change : Provider → Provider) : ResourceSpace :=
  ⟨space.providers.modify index change⟩

end ResourceSpace

end ModuleLoader
