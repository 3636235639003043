import ModuleLoader.Compile.OnDemand

/-
Compiling a whole archive.

Every source below the project directory is compiled, except those inside a dependency
directory, and the results are added to the archive.  A source that fails does not keep the
others from being compiled; all failures are reported together.
-/

namespace ModuleLoader.WholeArchive

open Text

/-- The directory that sources are taken from, with one slash at its end. -/
def rootPrefix (settings : Settings) : List Char :=
  (settings.projectRoot.toList.reverse.dropWhile (· = '/')).reverse ++ ['/']

/-- Whether a path of an archive is to be compiled. -/
def isSource (settings : Settings) (path : String) : Bool :=
  (dropStart? (rootPrefix settings) path.toList).isSome &&
    SuffixConvention.hasSuffix settings.sourceSuffix path &&
    !occursIn settings.dependencyMarker.toList path.toList

/-- The paths of an archive that are to be compiled, in order. -/
def sources (settings : Settings) (archive : Archive) : List String :=
  archive.paths.filter (isSource settings)

/-- Whether an archive has anything to compile. -/
def supports (settings : Settings) (archive : Archive) : Bool := !(sources settings archive).isEmpty

/-- A batch in progress. -/
structure Progress (σ : Type) where
  cache : RawCache := {}
  output : Archive
  /-- The failures so far, the last one first. -/
  failures : List CompilationError := []
  host : σ

/-- Compiles one source of the archive. -/
def compileOne {σ : Type} (env : Environment) (compiler : Compiler σ) (progress : Progress σ)
    (source : String) : Progress σ :=
  let ((result, host), cache) :=
    OnDemand.run env (compiler progress.host source) progress.cache
  match result with
  | .error e => { progress with cache := cache, host := host, failures := e :: progress.failures }
  | .ok text =>
    match env.settings.convention.compiledCounterpart source with
    | some target =>
      { progress with cache := cache, host := host, output := progress.output.addFile target text }
    | none => { progress with cache := cache, host := host }

/-- The archive with everything compiled that is to be compiled, or all failures. -/
def compile {σ : Type} (env : Environment) (compiler : Compiler σ) (host : σ) :
    Except CompilationError Archive × σ :=
  let progress := (sources env.settings env.archive).foldl (compileOne env compiler)
    { output := env.archive, host := host }
  match CompilationError.merge progress.failures.reverse with
  | some e => (.error e, progress.host)
  | none => (.ok progress.output, progress.host)

/-- Settings on one line. -/
def settingsSummary (settings : Settings) : String :=
  "LoaderConfig \x7b dependency_marker: " ++ quote settings.dependencyMarker ++
    ", package_roots: " ++ quoteList settings.packageRoots ++
    ", resource_scheme: " ++ quote settings.resourceScheme ++
    ", compiled_suffix: " ++ quote settings.compiledSuffix ++
    ", source_suffix: " ++ quote settings.sourceSuffix ++
    ", project_root: " ++ quote settings.projectRoot ++ " \x7d"

/-- The compiler of archives on one line. -/
def summary (settings : Settings) (resources : ResourceSpace) : String :=
  "ArchiveCompiler \x7b config: " ++ settingsSummary settings ++
    ", resources: ResourceSpace \x7b providers: " ++ toString resources.size ++ " \x7d \x7d"

end ModuleLoader.WholeArchive
