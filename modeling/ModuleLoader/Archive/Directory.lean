import ModuleLoader.Archive
import ModuleLoader.FileTree

/-
Archives and directories.

A directory is read into an archive with every file that is text, under its path below the
directory; links to directories are not entered, because they may lead back.  An archive
is written file by file in the order of paths, and stops at the first file that cannot be
written.
-/

namespace ModuleLoader.Archive

/-- The archive with one more file of a directory, unless the file is not text.  `names`
lead to the file from the directory. -/
def addRead (tree : FileTree) (directory : List String) (archive : Archive) (names : List String) :
    Except IoError Archive :=
  let path := directory ++ names
  match tree.readText path with
  | .ok text => .ok (archive.addFile ("/".intercalate names) text)
  | .error .notText => .ok archive
  | .error e => .error e

/-- Whether an entry of a directory is left out: a link to a directory. -/
def isLinkedDirectory (tree : FileTree) (directory : List String)
    (entry : List String × FileEntry) : Bool :=
  match entry.2 with
  | .link _ => tree.isDirectory (directory ++ entry.1)
  | _ => false

/-- The text files below a directory. -/
def ofDirectory (tree : FileTree) (directory : List String) : Except IoError Archive :=
  match tree.stat directory with
  | .error e => .error e
  | .ok (location, .directory) =>
    ((tree.filesBelow location).filter fun entry => !isLinkedDirectory tree directory entry).foldlM
      (fun archive entry => addRead tree directory archive entry.1) empty
  | .ok _ => .error .notDirectory

/-- The names that lead to a file of an archive in a directory.  A path from the root stands
for itself. -/
def targetNames (directory : List String) (path : String) : List String :=
  if FileTree.isRooted path then FileTree.names path else directory ++ FileTree.names path

/-- Writes one file and makes the directories that it needs. -/
def writeFile (tree : FileTree) (directory : List String) (path text : String) :
    FileTree × Option IoError :=
  let target := targetNames directory path
  match tree.makeDirectories (FileTree.plainNames target).dropLast with
  | (tree, some e) => (tree, some e)
  | (tree, none) =>
    match tree.write target text.toUTF8 with
    | .ok tree => (tree, none)
    | .error e => (tree, some e)

/-- Writes files up to the first that cannot be written. -/
def writeFiles (directory : List String) :
    List (String × String) → FileTree → FileTree × Option IoError
  | [], tree => (tree, none)
  | (path, text) :: rest, tree =>
    match writeFile tree directory path text with
    | (tree, some e) => (tree, some e)
    | (tree, none) => writeFiles directory rest tree

/-- Writes every file of an archive below a directory. -/
def writeTo (archive : Archive) (tree : FileTree) (directory : List String) :
    FileTree × Option IoError :=
  writeFiles directory archive.files tree

end ModuleLoader.Archive
