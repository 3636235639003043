import ModuleLoader.Settings
import ModuleLoader.Archive
import ModuleLoader.Resource.ByUrl

/-
Finding modules.

A specifier is looked for in the archive, then among the packaged resources: under the
name after its last dependency directory, below every package root, as a URL, and under
its own name.  A candidate that cannot be read does not hide the ones after it; the first
such failure counts if no candidate is found.

A relative specifier is first resolved against the module that mentions it, which is found
in turn, or else against the module that is running.

What is found is kept under the name that was asked for and is never replaced.  A relative
specifier is no such name, because it means different modules in different places.
-/

namespace ModuleLoader

open Text

/-- Everything that modules are found in. -/
structure Environment where
  settings : Settings := {}
  archive : Archive := .empty
  resources : ResourceSpace := {}
  files : FileTree := {}

/-- What has been found so far, in order, under the names that were asked for. -/
structure RawCache where
  entries : List (String × Artifact) := []
  deriving Repr, DecidableEq

namespace RawCache

/-- The artifact kept under a name. -/
def get? (cache : RawCache) (key : String) : Option Artifact := cache.entries.lookup key

/-- The number of names. -/
def size (cache : RawCache) : Nat := cache.entries.length

/-- Keeps an artifact under a name, unless one is kept there already; gives the one that is
kept then. -/
def remember (cache : RawCache) (key : String) (artifact : Artifact) : Found × RawCache :=
  match cache.get? key with
  | some old => (⟨old, some (.raw key)⟩, cache)
  | none => (⟨artifact, some (.raw key)⟩, ⟨cache.entries ++ [(key, artifact)]⟩)

end RawCache

/-- What asking for a module gives: an error, nothing, or the module. -/
abbrev Outcome := Except LoadError (Option Found)

namespace Search

/-! ### One lookup -/

/-- The text after the last occurrence of `marker` that stands at the beginning or behind a
slash.  `before` is what has not been looked at yet, last character first, and `after` what
has.  Occurrences are taken from the end and do not overlap. -/
def afterMarker (marker : List Char) (before after : List Char) : Option (List Char) :=
  match _h : dropStart? marker.reverse before with
  | some rest =>
    if rest = [] ∨ rest.head? = some '/' then some after
    else if _hm : marker = [] then
      match before with
      | [] => none
      | c :: before => afterMarker marker before (c :: after)
    else afterMarker marker rest (marker ++ after)
  | none =>
    match before with
    | [] => none
    | c :: before => afterMarker marker before (c :: after)
termination_by before.length
decreasing_by
  · simp
  · have := length_of_dropStart? _h
    have : 0 < marker.length := List.length_pos_iff.2 _hm
    simp at *; omega
  · simp

/-- The name of a nested dependency: what follows the last dependency directory. -/
def innerName? (marker specifier : String) : Option String :=
  (afterMarker marker.toList specifier.toList.reverse []).map String.ofList

/-- Opens the packaged resource `name` as the module `identity`. -/
def openResource (env : Environment) (name identity : String) :
    Except LoadError (Option Artifact) :=
  match env.resources.openName env.files name with
  | .ok (some body) => (Artifact.ofBody identity body).map some
  | .ok none => .ok none
  | .error e => .error (.io name e)

/-- Opens a URL. -/
def openUrl (env : Environment) (url : Url) : Except LoadError (Option Artifact) :=
  ByUrl.openUrl env.files env.settings.resourceScheme env.resources url

/-- The URL that a specifier looks like, opened.  One that is malformed names no URL. -/
def openAsUrl (env : Environment) (specifier : String) : Except LoadError (Option Artifact) :=
  if Reference.looksLikeUrl specifier then
    match Url.parse specifier with
    | .error _ => .ok none
    | .ok url =>
      match openUrl env url with
      | .error (.malformed _) => .ok none
      | result => result
  else .ok none

/-- The packaged resources that a specifier may mean, in order of precedence. -/
def candidates (env : Environment) (specifier : String) :
    List (Unit → Except LoadError (Option Artifact)) :=
  let inner := innerName? env.settings.dependencyMarker specifier
  let nested := inner.toList.map fun name => fun () => openResource env name specifier
  let packaged := env.settings.packageRoots.map fun root => fun () =>
    openResource env (root ++ inner.getD specifier) specifier
  nested ++ packaged ++
    [fun () => openAsUrl env specifier, fun () => openResource env specifier specifier]

/-- The first candidate that is found; failing that, the first failure. -/
def firstOf (held : Option LoadError) :
    List (Unit → Except LoadError (Option Artifact)) → Except LoadError (Option Artifact)
  | [] =>
    match held with
    | some e => .error e
    | none => .ok none
  | candidate :: rest =>
    match candidate () with
    | .ok (some artifact) => .ok (some artifact)
    | .ok none => firstOf held rest
    | .error e => firstOf (some (held.getD e)) rest

/-- Looks a specifier up as it stands. -/
def search (env : Environment) (specifier : String) : Except LoadError (Option Artifact) :=
  match env.archive.findFile specifier with
  | some contents => .ok (some ⟨specifier, contents⟩)
  | none => firstOf none (candidates env specifier)

/-! ### Lookups that are kept -/

/-- The outcome of a lookup whose result is not kept. -/
def passing (result : Except LoadError (Option Artifact)) : Outcome :=
  result.map fun found => found.map fun artifact => ⟨artifact, none⟩

/-- The outcome of a lookup whose result is kept under a name. -/
def keeping (cache : RawCache) (key : String) :
    Except LoadError (Option Artifact) → Outcome × RawCache
  | .error e => (.error e, cache)
  | .ok none => (.ok none, cache)
  | .ok (some artifact) =>
    let (found, cache) := cache.remember key artifact
    (.ok (some found), cache)

/-- Finds a module by a specifier alone. -/
def findAlone (env : Environment) (cache : RawCache) (specifier : String) : Outcome × RawCache :=
  match cache.get? specifier with
  | some artifact => (.ok (some ⟨artifact, some (.raw specifier)⟩), cache)
  | none =>
    if Reference.isRelative specifier then (passing (search env specifier), cache)
    else keeping cache specifier (search env specifier)

/-- Finds the module that a relative specifier means in the module `base`. -/
def findAgainst (env : Environment) (cache : RawCache) (base : Artifact) (specifier : String) :
    Outcome × RawCache :=
  match Reference.resolve base.uri specifier with
  | .error cause => (.error (.malformed cause), cache)
  | .ok target => findAlone env cache target

/-- Finds the module that a relative specifier means in the running module.  A URL is
opened as such. -/
def findInContext (env : Environment) (cache : RawCache) (context : Artifact)
    (specifier : String) : Outcome × RawCache :=
  match Reference.resolve context.uri specifier with
  | .error cause => (.error (.malformed cause), cache)
  | .ok target =>
    if Reference.isAbsolute target then
      keeping cache target
        (ByUrl.openText env.files env.settings.resourceScheme env.resources target)
    else findAlone env cache target

/-- Finds the module that a relative specifier means without a base: in the running module
if there is one, or else by its text. -/
def findUnbased (env : Environment) (cache : RawCache) (specifier : String)
    (context : Option Artifact) : Outcome × RawCache :=
  match context with
  | none => (passing (search env specifier), cache)
  | some context =>
    match findInContext env cache context specifier with
    | (.ok none, cache) => (passing (search env specifier), cache)
    | result => result

/-- Finds a module.  A relative specifier is resolved against `base`, or against `context`,
the running module, if there is no base or it cannot be found. -/
def findIn (env : Environment) (cache : RawCache) (specifier : String) (base : Option String)
    (context : Option Artifact) : Outcome × RawCache :=
  match cache.get? specifier with
  | some artifact => (.ok (some ⟨artifact, some (.raw specifier)⟩), cache)
  | none =>
    if Reference.isRelative specifier then
      match base with
      | none => findUnbased env cache specifier context
      | some base =>
        match findAlone env cache base with
        | (.error e, cache) => (.error e, cache)
        | (.ok (some base), cache) => findAgainst env cache base.artifact specifier
        | (.ok none, cache) => findUnbased env cache specifier context
    else keeping cache specifier (search env specifier)

/-- Finds a module.  A relative specifier is resolved against `base`. -/
def find (env : Environment) (cache : RawCache) (specifier : String) (base : Option String) :
    Outcome × RawCache :=
  findIn env cache specifier base none

/-- The settings and the number of artifacts kept so far, on one line. -/
def summary (settings : Settings) (cache : RawCache) : String :=
  "Resolver \x7b dependency_marker: " ++ quote settings.dependencyMarker ++ ", package_roots: " ++
    quoteList settings.packageRoots ++ s!", cached: {cache.size} \x7d"

end Search

end ModuleLoader
