import ModuleLoader.Suffix
import ModuleLoader.Toml.Parser

/-
The settings of a loader.

Every setting has a default for the usual layout: dependencies under `node_modules/`, also
inside the project directory, and `.ts` sources compiled to `.js`.  Settings are read from
a TOML document, in which unknown keys are passed over, and are then checked.
-/

namespace ModuleLoader

/-- The settings of a loader. -/
structure Settings where
  /-- The directory after which the name of a nested dependency starts. -/
  dependencyMarker : String := "node_modules/"
  /-- Where a packaged resource is looked for, in order. -/
  packageRoots : List String := ["node_modules/", ".atomist/node_modules/"]
  /-- The URL scheme that packaged resources are served under. -/
  resourceScheme : String := "classpath"
  /-- The suffix of modules that run. -/
  compiledSuffix : String := ".js"
  /-- The suffix of modules that have to be compiled. -/
  sourceSuffix : String := ".ts"
  /-- The directory of an archive that is compiled as a whole. -/
  projectRoot : String := ".atomist"
  deriving Repr, DecidableEq

namespace Settings

/-- What is wrong with settings. -/
inductive Invalid where
  | emptySuffix
  | sameSuffix (suffix : String)
  | badMarker (marker : String)
  | badScheme (scheme : String)
  deriving Repr, DecidableEq

/-- What is wrong, in words. -/
def Invalid.message : Invalid → String
  | emptySuffix => "compiled_suffix and source_suffix must not be empty"
  | sameSuffix suffix => s!"compiled_suffix and source_suffix are both '{suffix}'"
  | badMarker marker => s!"dependency_marker '{marker}' must be a directory name ending in '/'"
  | badScheme scheme => s!"resource_scheme '{scheme}' must be a lowercase URL scheme"

/-- A marker is more than a slash, and ends in one. -/
def isMarker (marker : String) : Bool :=
  SuffixConvention.hasSuffix "/" marker && 2 ≤ marker.utf8ByteSize

/-- A scheme consists of lower-case letters and digits. -/
def isScheme (scheme : String) : Bool :=
  !scheme.isEmpty && scheme.toList.all fun c => c.isLower || c.isDigit

/-- The settings, or the first thing that is wrong with them. -/
def validate (settings : Settings) : Except Invalid Unit :=
  if settings.compiledSuffix = "" ∨ settings.sourceSuffix = "" then .error .emptySuffix
  else if settings.compiledSuffix = settings.sourceSuffix then .error (.sameSuffix settings.compiledSuffix)
  else if !isMarker settings.dependencyMarker then .error (.badMarker settings.dependencyMarker)
  else if !isScheme settings.resourceScheme then .error (.badScheme settings.resourceScheme)
  else .ok ()

/-- The suffixes of compiled and source modules. -/
def convention (settings : Settings) : SuffixConvention := ⟨settings.compiledSuffix, settings.sourceSuffix⟩

/-- Why a text holds no settings. -/
inductive Fault where
  | notToml
  | invalid (cause : Invalid)
  deriving Repr, DecidableEq

/-- The text bound to a key, or the default where the key is not bound. -/
def textOf (entries : Toml.Entries) (key fallback : String) : Option String :=
  match Toml.Entries.get? entries key with
  | none => some fallback
  | some (.text s) => some s
  | some _ => none

/-- The texts bound to a key, or the default where the key is not bound. -/
def textsOf (entries : Toml.Entries) (key : String) (fallback : List String) :
    Option (List String) :=
  match Toml.Entries.get? entries key with
  | none => some fallback
  | some (.array items) => items.mapM fun
    | .text s => some s
    | _ => none
  | some _ => none

/-- The settings that the tables of a document hold. -/
def ofToml (entries : Toml.Entries) : Option Settings := do
  let defaults : Settings := {}
  return {
    dependencyMarker := ← textOf entries "dependency_marker" defaults.dependencyMarker
    packageRoots := ← textsOf entries "package_roots" defaults.packageRoots
    resourceScheme := ← textOf entries "resource_scheme" defaults.resourceScheme
    compiledSuffix := ← textOf entries "compiled_suffix" defaults.compiledSuffix
    sourceSuffix := ← textOf entries "source_suffix" defaults.sourceSuffix
    projectRoot := ← textOf entries "project_root" defaults.projectRoot }

/-- The checked settings that a text holds. -/
def parse (text : String) : Except Fault Settings :=
  match (Toml.parse text).bind ofToml with
  | none => .error .notToml
  | some settings =>
    match settings.validate with
    | .ok () => .ok settings
    | .error cause => .error (.invalid cause)

end Settings

end ModuleLoader
