import ModuleLoader.Compile.OnDemand

/-
Running modules, each of them once.

A runtime is a program of the host that runs a module and may load others meanwhile.  It is
written as the tree of its loads.  Modules that are running stand on a stack, the innermost
on top; a relative specifier is resolved against the one on top.  A module that has run
successfully is not run again, nor is one that is running already; a module that failed is.

Loads nest as deeply as modules load each other.  The depth to which they may nest is given,
and going deeper is told apart from every other outcome.
-/

namespace ModuleLoader

/-- A run of a runtime over a host with states `σ`: it ends, well or with the text of an
error, or loads a module and goes on with the answer and the host's state after the load. -/
inductive RuntimeRun (σ : Type) where
  | finish (state : σ) (result : Except String Unit)
  | load (state : σ) (specifier : String) (base : Option String)
      (next : σ → Outcome → RuntimeRun σ)

/-- A runtime: from a state of the host, a module and the stack with it on top to a run. -/
abbrev Runtime (σ : Type) := σ → Artifact → List Artifact → RuntimeRun σ

/-- The programs of a host. -/
structure Host (σ : Type) where
  compiler : Compiler σ
  /-- Without a runtime modules are found and compiled but never run. -/
  runtime : Option (Runtime σ)

/-- The state of a loader. -/
structure Evaluation (σ : Type) extends CompileState σ where
  /-- The identities of the modules that have run successfully. -/
  evaluated : List String := []
  /-- The modules that are running, the innermost first. -/
  stack : List Artifact := []

namespace Evaluation

variable {σ : Type}

/-- Whether a module has run successfully. -/
def isEvaluated (state : Evaluation σ) (uri : String) : Bool := state.evaluated.contains uri

/-- Whether a module is running. -/
def isRunning (state : Evaluation σ) (uri : String) : Bool :=
  state.stack.any fun artifact => artifact.uri = uri

/-- The number of modules that are running. -/
def depth (state : Evaluation σ) : Nat := state.stack.length

/-- The innermost module that is running. -/
def context? (state : Evaluation σ) : Option Artifact := state.stack.head?

/-- The state with a module on top of the stack. -/
def push (state : Evaluation σ) (artifact : Artifact) : Evaluation σ :=
  { state with stack := artifact :: state.stack }

/-- The state with all but the lowest `depth` modules taken off the stack. -/
def truncate (state : Evaluation σ) (depth : Nat) : Evaluation σ :=
  { state with stack := state.stack.drop (state.stack.length - depth) }

/-- The state with one more module that has run successfully. -/
def markEvaluated (state : Evaluation σ) (uri : String) : Evaluation σ :=
  { state with evaluated := state.evaluated.insert uri }

/-- A load: the outcome and the state after it, or nothing if loads nest too deeply. -/
abbrev Load (σ : Type) := Evaluation σ → String → Option String → Option (Outcome × Evaluation σ)

/-- Runs a runtime to its end, performing its loads. -/
def perform (load : Load σ) :
    RuntimeRun σ → Evaluation σ → Option (Except String Unit × Evaluation σ)
  | .finish host result, state => some (result, { state with host := host })
  | .load host specifier base next, state =>
    match load { state with host := host } specifier base with
    | none => none
    | some (answer, state) => perform load (next state.host answer) state

/-- The outcome of a load whose module has run, and the state without that module on the
stack; `depth` modules were running before it. -/
def leave (depth : Nat) (specifier : String) (found : Found) :
    Except String Unit → Evaluation σ → Outcome × Evaluation σ
  | .error cause, state => (.error (.execution specifier cause), state.truncate depth)
  | .ok (), state =>
    (.ok (some found), (state.truncate depth).markEvaluated found.artifact.uri)

/-- Runs a module: puts it on the stack, runs it, and takes it off again. -/
def execute (load : Load σ) (runtime : Runtime σ) (state : Evaluation σ) (specifier : String)
    (found : Found) : Option (Outcome × Evaluation σ) :=
  let running := state.push found.artifact
  (perform load (runtime running.host found.artifact running.stack) running).map fun ended =>
    leave state.depth specifier found ended.1 ended.2

/-- Finds a module, compiling it if need be, with the running module as context. -/
def resolve (env : Environment) (host : Host σ) (state : Evaluation σ) (specifier : String)
    (base : Option String) : Outcome × Evaluation σ :=
  let (outcome, compile) := OnDemand.executableIn env host.compiler
    state.toCompileState specifier base state.context?
  (outcome, { state with toCompileState := compile })

/-- Whether a module that was found is to be run now. -/
def isDue (env : Environment) (state : Evaluation σ) (specifier : String) (found : Found) : Bool :=
  env.settings.convention.kindOf specifier = .compiled &&
    !state.isEvaluated found.artifact.uri && !state.isRunning found.artifact.uri

/-- The module that is to be run now that it has been found, and the runtime that runs it. -/
def due? (env : Environment) (host : Host σ) (specifier : String) :
    Outcome × Evaluation σ → Option (Runtime σ × Found)
  | (.error _, _) => none
  | (.ok none, _) => none
  | (.ok (some found), state) =>
    if isDue env state specifier found then host.runtime.map fun runtime => (runtime, found)
    else none

/-- Finds a module and runs it if it is to be run.  Loads may nest `limit` deep. -/
def loadAndRun (env : Environment) (host : Host σ) : Nat → Load σ
  | 0, state, specifier, base =>
    let resolved := resolve env host state specifier base
    match due? env host specifier resolved with
    | none => some resolved
    | some _ => none
  | limit + 1, state, specifier, base =>
    let resolved := resolve env host state specifier base
    match due? env host specifier resolved with
    | none => some resolved
    | some (runtime, found) =>
      execute (loadAndRun env host limit) runtime resolved.2 specifier found

/-- The loader on one line. -/
def summary (settings : Settings) (host : Host σ) (state : Evaluation σ) : String :=
  "EvaluationTracker \x7b cache: " ++ OnDemand.summary settings state.toCompileState ++
    ", has_runtime: " ++ (if host.runtime.isSome then "true" else "false") ++
    ", evaluated: " ++ toString state.evaluated.length ++
    ", context_depth: " ++ toString state.depth ++ " \x7d"

end Evaluation

end ModuleLoader
