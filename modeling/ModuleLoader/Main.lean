import ModuleLoader.CommandLine.Run
import ModuleLoader.Shell.Machine

/-
The program on a real command line.

The files that a request may read are copied into a tree, the request is carried out on the
tree, and what has changed in it is written back.  Commands run on a machine that has a
shell and the small programs and no others.
-/

namespace ModuleLoader.CommandLine

/-- The paths that a request may read. -/
def Request.readPaths : Request → List String
  | .perform task options =>
    let archive := match task with
      | .resolve _ _ archive _ => archive.toList
      | .compile archive _ => [archive]
      | .run _ _ archive _ => archive.toList
    archive ++ options.resources ++ options.config.toList
  | _ => []

/-- The written form of a location. -/
def pathText (location : FileTree.Location) : String := "/" ++ "/".intercalate location

/-- Copies what stands at a location, directories no deeper than a limit. -/
def copyFrom : Nat → FileTree.Location → FileTree → IO FileTree
  | 0, _, tree => pure tree
  | depth + 1, location, tree => do
    let place ← IO.FS.realPath (pathText location)
    if ← place.isDir then
      let entries ← place.readDir
      entries.foldlM (fun tree entry => copyFrom depth (location ++ [entry.fileName]) tree)
        (tree.makeDirectories location).1
    else if ← place.pathExists then
      let bytes ← IO.FS.readBinFile place
      let (tree, _) := tree.makeDirectories location.dropLast
      return (tree.write location bytes).toOption.getD tree
    else return tree

/-- Writes the files that a tree has and another one lacks. -/
def writeBack (before after : FileTree) : IO Unit :=
  after.entries.forM fun (location, entry) => do
    match entry with
    | .file bytes =>
      if before.entry? location ≠ some entry then
        IO.FS.createDirAll (pathText location.dropLast)
        IO.FS.writeBinFile (pathText location) bytes
    | _ => pure ()

end ModuleLoader.CommandLine

open ModuleLoader in
/-- Runs the program and ends with its exit code. -/
def main (words : List String) : IO UInt32 := do
  let directory := FileTree.plainNames (FileTree.names (← IO.currentDir).toString)
  let paths := ((CommandLine.request? false words).map CommandLine.Request.readPaths).getD []
  let tree ← paths.foldlM
    (fun tree path =>
      CommandLine.copyFrom 64 (FileTree.plainNames (FileTree.fromRoot directory path)) tree)
    (({} : FileTree).makeDirectories directory).1
  let result := CommandLine.run ⟨tree, directory, Shell.machine tree directory⟩ words
  CommandLine.writeBack tree result.files
  (← IO.getStdout).write result.written.output
  (← IO.getStderr).write result.written.errors
  return UInt32.ofNat result.code
