import ModuleLoader.Search

/-
Compiling modules on demand.

A compiler is a program of the host that may ask for modules before it answers.  It is
written as the tree of its questions, so that nothing is assumed about it beyond its coming
to an end.

A module that is asked for in compiled form and exists only as a source is compiled, once
for every source.  A failed compilation leaves nothing but an empty slot, so that the next
request tries again.
-/

namespace ModuleLoader

/-- A run of a compiler over a host with states `σ`: it ends, or asks for a module and goes
on with the answer. -/
inductive CompilerRun (σ : Type) where
  | finish (state : σ) (result : Except CompilationError String)
  | ask (specifier : String) (base : Option String) (next : Outcome → CompilerRun σ)

/-- A compiler: from a state of the host and the name of a source to a run. -/
abbrev Compiler (σ : Type) := σ → String → CompilerRun σ

/-- What has been found and compiled so far, and the state of the host. -/
structure CompileState (σ : Type) where
  raw : RawCache := {}
  /-- For every source that was ever to be compiled, what it was compiled to. -/
  slots : List (String × Option Artifact) := []
  host : σ

namespace OnDemand

/-- Runs a compiler to its end, answering its questions. -/
def run {σ : Type} (env : Environment) :
    CompilerRun σ → RawCache → (Except CompilationError String × σ) × RawCache
  | .finish state result, cache => ((result, state), cache)
  | .ask specifier base next, cache =>
    let (answer, cache) := Search.find env cache specifier base
    run env (next answer) cache

/-- The slots with one more source whose slot is `value`. -/
def setSlot (source : String) (value : Option Artifact) :
    List (String × Option Artifact) → List (String × Option Artifact)
  | [] => [(source, value)]
  | (s, v) :: rest => if s = source then (s, value) :: rest else (s, v) :: setSlot source value rest

/-- What a source was compiled to. -/
def compiled? {σ : Type} (state : CompileState σ) (source : String) : Option Artifact :=
  (state.slots.lookup source).join

variable {σ : Type}

/-- Compiles a source.  The result is known by the compiled counterpart of the source's
identity, or by the name that was asked for if there is none. -/
def compile (env : Environment) (compiler : Compiler σ) (state : CompileState σ)
    (source requested : String) : Outcome × CompileState σ :=
  let ((result, host), raw) := run env (compiler state.host source) state.raw
  match result with
  | .error e =>
    let slots := setSlot source (compiled? state source) state.slots
    (.error (.compilation e), { state with raw := raw, slots := slots, host := host })
  | .ok output =>
    let identity := (env.settings.convention.compiledCounterpart source).getD requested
    let artifact : Artifact := ⟨identity, output⟩
    let slots := setSlot source (some artifact) state.slots
    (.ok (some ⟨artifact, some (.compiled source)⟩),
      { state with raw := raw, slots := slots, host := host })

/-- What a source is compiled to, compiled now if it has not been. -/
def compileOnce (env : Environment) (compiler : Compiler σ) (state : CompileState σ)
    (source requested : String) : Outcome × CompileState σ :=
  match compiled? state source with
  | some artifact => (.ok (some ⟨artifact, some (.compiled source)⟩), state)
  | none => compile env compiler state source requested

/-- The compiled form of a module whose compiled form was not found as such. -/
def fromSource (env : Environment) (compiler : Compiler σ) (state : CompileState σ)
    (specifier : String) (base : Option String) (context : Option Artifact) :
    Outcome × CompileState σ :=
  match env.settings.convention.sourceCounterpart specifier with
  | none => (.ok none, state)
  | some counterpart =>
    match Search.findIn env state.raw counterpart base context with
    | (.error e, raw) => (.error e, { state with raw := raw })
    | (.ok none, raw) => (.ok none, { state with raw := raw })
    | (.ok (some source), raw) =>
      compileOnce env compiler { state with raw := raw } source.artifact.uri specifier

/-- Finds a module, and compiles it if only its source is found. -/
def executableIn (env : Environment) (compiler : Compiler σ) (state : CompileState σ)
    (specifier : String) (base : Option String) (context : Option Artifact) :
    Outcome × CompileState σ :=
  match Search.findIn env state.raw specifier base context with
  | (.error e, raw) => (.error e, { state with raw := raw })
  | (.ok (some found), raw) => (.ok (some found), { state with raw := raw })
  | (.ok none, raw) =>
    if env.settings.convention.kindOf specifier = .compiled then
      fromSource env compiler { state with raw := raw } specifier base context
    else (.ok none, { state with raw := raw })

/-- Finds a module, and compiles it if only its source is found. -/
def executable (env : Environment) (compiler : Compiler σ) (state : CompileState σ)
    (specifier : String) (base : Option String) : Outcome × CompileState σ :=
  executableIn env compiler state specifier base none

/-- The cache on one line. -/
def summary (settings : Settings) (state : CompileState σ) : String :=
  "CompileCache \x7b resolver: " ++ Search.summary settings state.raw ++
    ", convention: SuffixConvention \x7b compiled: " ++ Text.quote settings.compiledSuffix ++
    ", source: " ++ Text.quote settings.sourceSuffix ++
    " \x7d, compiled: " ++ toString state.slots.length ++ " \x7d"

end OnDemand

end ModuleLoader
