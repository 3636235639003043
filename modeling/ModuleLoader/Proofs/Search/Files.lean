/-
Finding the files of an archive.

The archive comes before everything else, so a file under a clean path is found by its path
whatever else there is, and by a relative reference that leads to the path.  Neither depends on
what was asked before (`serve_asFresh`): a clean path is no URL.
-/
import ModuleLoader.Proofs.Path.Clean
import ModuleLoader.Proofs.Search.History

namespace ModuleLoader

open Text

namespace Archive

/-- A clean path is in normal form. -/
theorem normal_of_clean {path : String} (h : Path.Clean path.toList) : Normal path.toList :=
  ⟨h.backslash, h.not_dots (Or.inl rfl), h.not_slash⟩

theorem findFile_of_mem {archive : Archive} {path text : String} (hclean : Path.Clean path.toList)
    (h : (path, text) ∈ archive.files) : archive.findFile path = some text := by
  unfold findFile
  rw [normalForm_of_normal (normal_of_clean hclean)]
  exact lookup_of_mem archive.sorted h

end Archive

namespace Search

variable {env : Environment} {cache : RawCache} {path text : String}

theorem search_file (hclean : Path.Clean path.toList) (h : (path, text) ∈ env.archive.files) :
    search env path = .ok (some ⟨path, text⟩) := by
  unfold search
  rw [Archive.findFile_of_mem hclean h]

/-- What a specifier means, by itself or in the running module. -/
def Means (context : Option Artifact) (specifier path : String) : Prop :=
  specifier = path ∨ (Reference.isRelative specifier = true ∧
    ∃ running ∈ context, Reference.resolve running.uri specifier = .ok path)

/-- A clean path is no URL that the running module could lead to. -/
theorem Means.not_url {context : Option Artifact} {specifier : String}
    (h : Means context specifier path) (hclean : Path.Clean path.toList) :
    ∀ running ∈ context, ∀ url, ¬ LeadsToUrl running specifier url := by
  rintro running hrunning url ⟨hrel, hresolve, habs⟩
  rcases h with rfl | ⟨-, module, hmodule, hpath⟩
  · rw [Reference.isRelative_of_clean hclean] at hrel
    cases hrel
  · obtain rfl : running = module := Option.mem_unique hrunning hmodule
    obtain rfl : url = path := Except.ok.inj (hresolve.symm.trans hpath)
    rw [Reference.isAbsolute_of_plain hclean.toPlain] at habs
    cases habs

/-- A file is found by what means its path, on an empty cache. -/
theorem findIn_file_fresh {context : Option Artifact} {specifier : String}
    (hclean : Path.Clean path.toList) (hfile : (path, text) ∈ env.archive.files)
    (h : Means context specifier path) :
    (findIn env {} specifier none context).1 = .ok (some ⟨⟨path, text⟩, some (.raw path)⟩) := by
  have hfresh := Reference.isRelative_of_clean hclean
  rcases h with rfl | ⟨hrel, running, hrunning, hpath⟩
  · rw [findIn_of_fresh rfl hfresh, search_file hclean hfile]
    rfl
  · have habs : Reference.isAbsolute path ≠ true := by
      rw [Reference.isAbsolute_of_plain hclean.toPlain]
      exact Bool.false_ne_true
    obtain rfl : context = some running := hrunning
    rw [findIn_of_unbased rfl hrel, findUnbased_some, findInContext_of_path hpath habs,
      findAlone_of_fresh rfl hfresh, search_file hclean hfile]
    rfl

/-- **A file is found by what means its path**, whatever was asked before. -/
theorem findIn_file (hrecalls : Recalls env cache) {context : Option Artifact} {specifier : String}
    (hclean : Path.Clean path.toList) (hfile : (path, text) ∈ env.archive.files)
    (h : Means context specifier path) :
    (findIn env cache specifier none context).1 = .ok (some ⟨⟨path, text⟩, some (.raw path)⟩) ∧
      Recalls env (findIn env cache specifier none context).2 := by
  have hagrees : ∀ running ∈ context, ∀ url, LeadsToUrl running specifier url → Agrees env url :=
    fun running hrunning url hurl => absurd hurl (h.not_url hclean running hrunning url)
  obtain ⟨hanswer, hafter⟩ : AsFresh env (findIn env {} specifier none context)
      (findIn env cache specifier none context) :=
    @serve_asFresh env cache hrecalls ⟨env, specifier, none, context⟩ rfl hagrees
  exact ⟨hanswer.trans (findIn_file_fresh hclean hfile h), hafter⟩

end Search

end ModuleLoader
