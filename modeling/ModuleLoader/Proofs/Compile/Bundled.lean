/-
Project sources and bundled dependencies.

A batch takes the sources below the project root, except those that are bundled dependencies.  A name
is cut at the marker of dependency directories only where a directory is called so.  A batch leaves
out more than that: every path that the text of the marker occurs in, so also a path with a directory
whose name merely ends in it.  The two agree on the paths of an archive exactly if there is no such
path in the project (`sources_bundled`).
-/
import ModuleLoader.Proofs.Compile.Sources
import ModuleLoader.Proofs.Search.DependencyRoot

namespace ModuleLoader.WholeArchive

open Search (HasRoot directoriesOf innerName? innerName?_eq_some innerName?_eq_none_iff)

variable {settings : Settings} {archive : Archive} {path : String}

/-- A path below the project root that is named like a source. -/
def InProject (settings : Settings) (path : String) : Prop :=
  rootPrefix settings <+: path.toList ∧ settings.convention.source.toList <:+ path.toList

/-- A lookup finds a dependency directory in the path. -/
def IsBundled (settings : Settings) (path : String) : Prop :=
  ∃ inner, innerName? settings.dependencyMarker path = some inner

/-- The text of the marker occurs in the path, but a lookup finds no dependency directory there. -/
def Lookalike (settings : Settings) (path : String) : Prop :=
  settings.dependencyMarker.toList <:+: path.toList ∧ ¬ IsBundled settings path

/-- Of the paths of the project, a batch leaves out those of bundled dependencies and no others. -/
def LeavesOutBundled (settings : Settings) (archive : Archive) : Prop :=
  ∀ path ∈ archive.paths, InProject settings path →
    (path ∉ sources settings archive ↔ IsBundled settings path)

/-- The text of the marker occurs wherever a dependency directory is found. -/
theorem IsBundled.marker_occurs (h : IsBundled settings path) :
    settings.dependencyMarker.toList <:+: path.toList := by
  obtain ⟨inner, hinner⟩ := h
  obtain ⟨front, heq, -⟩ := innerName?_eq_some hinner
  exact ⟨front, inner.toList, heq.symm⟩

theorem marker_occurs_iff : settings.dependencyMarker.toList <:+: path.toList ↔
    IsBundled settings path ∨ Lookalike settings path := by
  constructor
  · intro hoccurs
    by_cases hbundled : IsBundled settings path
    · exact Or.inl hbundled
    · exact Or.inr ⟨hoccurs, hbundled⟩
  · rintro (hbundled | ⟨hoccurs, -⟩)
    · exact hbundled.marker_occurs
    · exact hoccurs

theorem mem_sources_iff : path ∈ sources settings archive ↔ path ∈ archive.paths ∧
    InProject settings path ∧ ¬ IsBundled settings path ∧ ¬ Lookalike settings path := by
  rw [mem_sources, isSource_iff, marker_occurs_iff, not_or]
  unfold InProject
  rw [and_assoc]

theorem leavesOutBundled_iff : LeavesOutBundled settings archive ↔
    ∀ path ∈ archive.paths, InProject settings path → ¬ Lookalike settings path := by
  constructor
  · intro h path hpath hproject hlookalike
    have hleft : path ∉ sources settings archive :=
      fun hmem => (mem_sources_iff.mp hmem).2.2.2 hlookalike
    exact hlookalike.2 ((h path hpath hproject).mp hleft)
  · intro h path hpath hproject
    constructor
    · intro hleft
      by_contra hbundled
      exact hleft (mem_sources_iff.mpr ⟨hpath, hproject, hbundled, h path hpath hproject⟩)
    · intro hbundled hmem
      exact (mem_sources_iff.mp hmem).2.2.1 hbundled

/-! ### The name of one directory -/

section Directory

variable {name : List Char} (hflat : '/' ∉ name)
  (hmarker : settings.dependencyMarker.toList = name ++ ['/'])

include hflat hmarker

theorem isBundled_iff : IsBundled settings path ↔ name ∈ directoriesOf path.toList := by
  unfold IsBundled
  rw [← Option.ne_none_iff_exists', Ne, innerName?_eq_none_iff hflat hmarker, not_not, hmarker,
    Search.hasRoot_iff hflat]

theorem lookalike_iff : Lookalike settings path ↔ name ∉ directoriesOf path.toList ∧
    ∃ directory ∈ directoriesOf path.toList, name <:+ directory := by
  unfold Lookalike
  rw [isBundled_iff hflat hmarker, hmarker, Search.occurs_iff hflat, and_comm]

end Directory

/-- **What a batch leaves out.**  The sources are listed in the order of their paths, each once: they
are the paths of the project that are no bundled dependencies and do not look like ones.  So exactly
the bundled dependencies are left out of the project if no path of it looks like one.  If the marker is
the name of a directory, a path is bundled if one of its directories is called so, and looks like it
if none is but the name of some directory ends in that. -/
theorem sources_bundled (settings : Settings) (archive : Archive) :
    (sources settings archive).Pairwise (· < ·) ∧
    (∀ path, path ∈ sources settings archive ↔ path ∈ archive.paths ∧
      InProject settings path ∧ ¬ IsBundled settings path ∧ ¬ Lookalike settings path) ∧
    (LeavesOutBundled settings archive ↔
      ∀ path ∈ archive.paths, InProject settings path → ¬ Lookalike settings path) ∧
    ∀ name : List Char, '/' ∉ name → settings.dependencyMarker.toList = name ++ ['/'] →
      ∀ path : String, (IsBundled settings path ↔ name ∈ directoriesOf path.toList) ∧
        (Lookalike settings path ↔ name ∉ directoriesOf path.toList ∧
          ∃ directory ∈ directoriesOf path.toList, name <:+ directory) := by
  refine ⟨pairwise_sources settings archive, fun path => mem_sources_iff, leavesOutBundled_iff, ?_⟩
  intro name hflat hmarker path
  exact ⟨isBundled_iff hflat hmarker, lookalike_iff hflat hmarker⟩

/-- A project with a source and a bundled dependency. -/
def bundling : Archive :=
  .ofFiles [(".atomist/lib/x.ts", "x"), (".atomist/node_modules/lib/y.ts", "y")]

/-- The bundled dependency is left out, and the source is listed. -/
theorem sources_bundled_bundling :
    sources {} bundling = [".atomist/lib/x.ts"] ∧ LeavesOutBundled {} bundling := by
  obtain ⟨-, -, hiff, hdirectory⟩ := sources_bundled {} bundling
  have hmarker : ({} : Settings).dependencyMarker.toList = "node_modules".toList ++ ['/'] := by rfl
  refine ⟨by rfl, hiff.mpr ?_⟩
  intro path hpath _
  rw [(hdirectory "node_modules".toList (by decide) hmarker path).2]
  have hpaths : bundling.paths = [".atomist/lib/x.ts", ".atomist/node_modules/lib/y.ts"] := by rfl
  simp only [hpaths, List.mem_cons, List.not_mem_nil, or_false] at hpath
  rcases hpath with rfl | rfl
  · decide
  · decide

/-- A project with a source in a directory that is called almost like that of dependencies. -/
def almostBundling : Archive := .ofFiles [(".atomist/my_node_modules/x.ts", "x")]

/-- The source is left out although it is no bundled dependency. -/
theorem not_leavesOutBundled_almostBundling :
    ({} : Settings).validate = .ok () ∧ sources {} almostBundling = [] ∧
      ¬ LeavesOutBundled {} almostBundling := by
  have hmarker : ({} : Settings).dependencyMarker.toList = "node_modules".toList ++ ['/'] := by rfl
  have hmem : ".atomist/my_node_modules/x.ts" ∈ almostBundling.paths :=
    List.mem_singleton.mpr rfl
  have hproject : InProject {} ".atomist/my_node_modules/x.ts" :=
    ⟨⟨"my_node_modules/x.ts".toList, rfl⟩, ⟨".atomist/my_node_modules/x".toList, rfl⟩⟩
  have hlookalike : Lookalike {} ".atomist/my_node_modules/x.ts" := by
    rw [lookalike_iff (by decide) hmarker]
    decide
  refine ⟨by rfl, by rfl, fun hleaves => ?_⟩
  exact leavesOutBundled_iff.mp hleaves _ hmem hproject hlookalike

end ModuleLoader.WholeArchive
