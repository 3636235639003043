import ModuleLoader.Shell.Run

/-
A machine with a shell and the small programs.

Programs see a tree of files and work in one of its directories.  What they change in it is
gone when they end.  No file of the tree is a program.
-/

namespace ModuleLoader.Shell

/-- Runs a tool as a program of its own. -/
def runTool (tool : Process.Call → Process.Reply) (files : FileTree)
    (directory : FileTree.Location) (launch : Launch) : Finished :=
  let file (name : String) :=
    if name = "/dev/null" then .ok ByteArray.empty
    else files.read (FileTree.fromRoot directory name)
  let reply := tool ⟨launch.arguments.map String.toList, some launch.input.toList, file⟩
  ⟨reply.output.foldl ByteArray.push .empty, reply.errors.foldl ByteArray.push .empty,
    .exited reply.status⟩

/-- Why a program cannot be started that the machine does not know. -/
def refusal (files : FileTree) (directory : FileTree.Location) (program : String) : IoError :=
  if !program.toList.contains '/' then .noSuchFile
  else
    match files.stat (FileTree.fromRoot directory program) with
    | .ok _ => .accessDenied
    | .error e => e

/-- The machine among some files, working in one of their directories. -/
def machine (files : FileTree) (directory : FileTree.Location) : Machine := fun launch =>
  if (launch.program :: launch.arguments).any fun text => text.toList.contains '\x00' then
    .error .nulInArgument
  else
    match programName? launch.program with
    | some "sh" => .ok (start files directory launch)
    | some name =>
      match Process.tools.lookup name with
      | some tool => .ok (runTool tool files directory launch)
      | none => .error (refusal files directory launch.program)
    | none => .error (refusal files directory launch.program)

end ModuleLoader.Shell
