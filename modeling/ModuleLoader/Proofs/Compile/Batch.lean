/-
Compiling a whole archive, source by source.

A batch shares one cache among all its sources and goes on after a failure.  Neither matters to
a reproducible compiler: the cache recalls throughout, so every source comes to what it comes to
by itself (`foldl_asAlone`).

With the usual suffixes the sources and what they are compiled to have names of their own: these
differ in the suffix, and exchanging it keeps a path in normal form.  So a batch that succeeds
is the archive with one more file for each source, and nothing else is changed
(`compile_eq_alone`).  A compiled file that was not to be found before is the very module that
asking for it would have compiled on demand (`executable_eq_batch`).
-/
import ModuleLoader.Compile.WholeArchive
import ModuleLoader.Proofs.Compile.Alone
import ModuleLoader.Proofs.Compile.Calls
import ModuleLoader.Proofs.Path.Ending

namespace ModuleLoader

/-! ### Several errors in one -/

namespace CompilationError

/-- The error has all that the errors have, in their order. -/
structure Joins (errors : List CompilationError) (e : CompilationError) : Prop where
  sourceName : e.sourceName = ", ".intercalate (errors.map (·.sourceName))
  output : e.output = "\n\n".intercalate (errors.map (·.output))
  diagnostics : e.diagnostics = errors.flatMap (·.diagnostics)

theorem joins_foldl (rest : List CompilationError) :
    ∀ first : CompilationError, Joins (first :: rest) (rest.foldl append first) := by
  induction rest with
  | nil => intro first; exact ⟨rfl, rfl, by simp⟩
  | cons next rest ih =>
      intro first
      obtain ⟨hname, houtput, hdiagnostics⟩ := ih (append first next)
      refine ⟨hname, houtput, ?_⟩
      rw [List.foldl_cons, hdiagnostics]
      simp [append]

theorem merge_of_ne_nil {errors : List CompilationError} (h : errors ≠ []) :
    ∃ e, merge errors = some e ∧ Joins errors e := by
  cases errors with
  | nil => exact absurd rfl h
  | cons first rest => exact ⟨_, rfl, joins_foldl rest first⟩

end CompilationError

namespace WholeArchive

open OnDemand Search

variable {σ : Type} {env : Environment} {compiler : Compiler σ} {host : σ}

/-! ### Every source comes to what it comes to by itself -/

/-- The failures of sources that are compiled by themselves, in order. -/
def failures (env : Environment) (compiler : Compiler σ) (host : σ) (sources : List String) :
    List CompilationError :=
  sources.filterMap fun source =>
    match alone env compiler host source with
    | .error e => some e
    | .ok _ => none

/-- An archive with one more file, what a source comes to by itself. -/
def addAlone (env : Environment) (compiler : Compiler σ) (host : σ) (output : Archive)
    (source : String) : Archive :=
  match alone env compiler host source, env.settings.convention.compiledCounterpart source with
  | .ok text, some target => output.addFile target text
  | _, _ => output

/-- The batch has come to these failures and to this output. -/
structure ComesTo (env : Environment) (progress : Progress σ) (failed : List CompilationError)
    (output : Archive) : Prop where
  recalls : Recalls env progress.cache
  failures : progress.failures = failed
  output : progress.output = output

theorem compileOne_asAlone (hcompiler : compiler.Reproducible) (host : σ) {progress : Progress σ}
    (h : Recalls env progress.cache) (source : String) :
    ComesTo env (compileOne env compiler progress source)
      ((failures env compiler host [source]).reverse ++ progress.failures)
      (addAlone env compiler host progress.output source) := by
  have hrecalls := (run_of_recalls (compiler progress.host source) h).2
  have halone := run_eq_alone hcompiler h progress.host host source
  unfold compileOne
  rcases hrun : run env (compiler progress.host source) progress.cache
    with ⟨⟨result, after⟩, cache⟩
  rw [hrun] at hrecalls halone
  rcases result with e | text
  · exact ⟨hrecalls, by simp [failures, ← halone], by simp [addAlone, ← halone]⟩
  · rcases htarget : env.settings.convention.compiledCounterpart source with _ | target
    · exact ⟨hrecalls, by simp [failures, ← halone], by simp [addAlone, ← halone, htarget]⟩
    · exact ⟨hrecalls, by simp [failures, ← halone], by simp [addAlone, ← halone, htarget]⟩

theorem foldl_asAlone (hcompiler : compiler.Reproducible) (host : σ) (sources : List String) :
    ∀ {progress : Progress σ}, Recalls env progress.cache →
      ComesTo env (sources.foldl (compileOne env compiler) progress)
        ((failures env compiler host sources).reverse ++ progress.failures)
        (sources.foldl (addAlone env compiler host) progress.output) := by
  induction sources with
  | nil => intro progress h; exact ⟨h, rfl, rfl⟩
  | cons source rest ih =>
      intro progress h
      have hfirst := compileOne_asAlone hcompiler host h source
      have hrest := ih hfirst.recalls
      rw [hfirst.failures, hfirst.output] at hrest
      have happend : failures env compiler host (source :: rest)
          = failures env compiler host [source] ++ failures env compiler host rest :=
        List.filterMap_append (l := [source])
      rw [happend, List.reverse_append, List.append_assoc]
      exact hrest

theorem compile_fst (hcompiler : compiler.Reproducible) (before host : σ) :
    (compile env compiler before).1 =
      match CompilationError.merge
        (failures env compiler host (sources env.settings env.archive)) with
      | some e => .error e
      | none => .ok ((sources env.settings env.archive).foldl (addAlone env compiler host)
          env.archive) := by
  have hstart : Recalls env ({ output := env.archive, host := before } : Progress σ).cache :=
    recalls_empty env
  obtain ⟨-, hfailures, houtput⟩ :=
    foldl_asAlone hcompiler host (sources env.settings env.archive) hstart
  unfold compile
  simp only
  rw [hfailures, houtput, List.append_nil, List.reverse_reverse]
  rcases CompilationError.merge
    (failures env compiler host (sources env.settings env.archive)) with _ | e <;> rfl

/-! ### The names of sources and of what they are compiled to -/

theorem mem_sources {settings : Settings} {archive : Archive} {source : String} :
    source ∈ sources settings archive ↔ source ∈ archive.paths ∧ isSource settings source = true :=
  List.mem_filter

/-- The sources come in the order of their paths, each once. -/
theorem pairwise_sources (settings : Settings) (archive : Archive) :
    (sources settings archive).Pairwise (· < ·) :=
  List.Pairwise.filter _ (List.pairwise_map.mpr archive.sorted)

theorem compiledCounterpart_of_isSource {settings : Settings} {source : String}
    (h : isSource settings source = true) :
    ∃ target, settings.convention.compiledCounterpart source = some target := by
  unfold isSource at h
  simp only [Bool.and_eq_true] at h
  obtain ⟨stem, hstem⟩ := Option.isSome_iff_exists.mp h.1.2
  exact ⟨_, Option.map_eq_some_iff.mpr ⟨stem, hstem, rfl⟩⟩

/-- The suffixes are the usual ones. -/
abbrev UsualSuffixes (settings : Settings) : Prop :=
  settings.convention = ({} : Settings).convention

/-- Different sources are compiled to different names. -/
theorem compiledCounterpart_injective {settings : Settings} {source source' target : String}
    (h : settings.convention.compiledCounterpart source = some target)
    (h' : settings.convention.compiledCounterpart source' = some target) : source = source' := by
  have hsource := SuffixConvention.counterparts.mpr h
  rw [SuffixConvention.counterparts.mpr h'] at hsource
  exact (Option.some.inj hsource).symm

theorem eq_of_compiledCounterpart_eq {settings : Settings} {source source' : String}
    (h : isSource settings source = true)
    (heq : settings.convention.compiledCounterpart source
      = settings.convention.compiledCounterpart source') : source = source' := by
  obtain ⟨target, htarget⟩ := compiledCounterpart_of_isSource h
  exact compiledCounterpart_injective htarget (heq.symm.trans htarget)

/-- The sources of an archive are compiled to different names. -/
theorem pairwise_compiledCounterpart (settings : Settings) (archive : Archive) :
    (sources settings archive).Pairwise fun a b =>
      settings.convention.compiledCounterpart a ≠ settings.convention.compiledCounterpart b := by
  refine (pairwise_sources settings archive).imp_of_mem ?_
  intro a b ha _ hlt heq
  rw [eq_of_compiledCounterpart_eq (mem_sources.mp ha).2 heq] at hlt
  exact String.lt_irrefl _ hlt

section UsualSuffixes

variable {settings : Settings} (hsuffixes : UsualSuffixes settings) {source target : String}

include hsuffixes

theorem endings_of_usualSuffixes : settings.convention.Endings := by
  rw [hsuffixes]
  decide

/-- What a source is compiled to is not named like a source. -/
theorem isSource_of_compiledCounterpart
    (h : settings.convention.compiledCounterpart source = some target) :
    isSource settings target = false := by
  rw [← Bool.not_eq_true]
  intro hsource
  obtain ⟨other, hother⟩ := compiledCounterpart_of_isSource hsource
  rw [hsuffixes] at h hother
  obtain ⟨stem, -, rfl⟩ := SuffixConvention.exchange_eq_some_iff.mp h
  obtain ⟨stem', heq, -⟩ := SuffixConvention.exchange_eq_some_iff.mp hother
  have hlist := congrArg String.toList heq
  rw [String.toList_append, String.toList_append] at hlist
  exact absurd (List.append_inj' hlist (by decide)).2 (by decide)

end UsualSuffixes

/-! ### The archive with everything compiled -/

/-- What is in the output when all sources have been compiled under different names. -/
theorem mem_files_foldl_addAlone (path text : String) {sources : List String}
    (hall : ∀ source ∈ sources, ∃ compiled target, alone env compiler host source = .ok compiled ∧
      env.settings.convention.compiledCounterpart source = some target ∧
      Archive.Normal target.toList)
    (hdistinct : sources.Pairwise fun a b =>
      env.settings.convention.compiledCounterpart a ≠ env.settings.convention.compiledCounterpart b) :
    ∀ output : Archive, (path, text) ∈ (sources.foldl (addAlone env compiler host) output).files ↔
      (∃ source ∈ sources, env.settings.convention.compiledCounterpart source = some path ∧
        alone env compiler host source = .ok text) ∨
      ((path, text) ∈ output.files ∧
        ∀ source ∈ sources, env.settings.convention.compiledCounterpart source ≠ some path) := by
  induction sources with
  | nil => intro output; simp
  | cons source rest ih =>
      intro output
      obtain ⟨hothers, hrest⟩ := List.pairwise_cons.mp hdistinct
      obtain ⟨compiled, target, halone, htarget, hnormal⟩ := hall source List.mem_cons_self
      have hadd : addAlone env compiler host output source = output.addFile target compiled := by
        unfold addAlone
        rw [halone, htarget]
      rw [List.foldl_cons, hadd,
        ih (fun other hother => hall other (List.mem_cons_of_mem _ hother)) hrest,
        Archive.mem_files_addFile hnormal]
      constructor
      · rintro (⟨other, hother, hfound⟩ | ⟨⟨rfl, rfl⟩ | ⟨hold, hne⟩, hnone⟩)
        · exact Or.inl ⟨other, List.mem_cons_of_mem _ hother, hfound⟩
        · exact Or.inl ⟨source, List.mem_cons_self, htarget, halone⟩
        · refine Or.inr ⟨hold, List.forall_mem_cons.mpr ⟨?_, hnone⟩⟩
          rw [htarget]
          exact fun heq => hne (Option.some.inj heq).symm
      · rintro (⟨other, hother, hpath, htext⟩ | ⟨hold, hnone⟩)
        · rcases List.mem_cons.mp hother with rfl | hother
          · -- No later source is compiled to the same name.
            obtain rfl := Option.some.inj (htarget.symm.trans hpath)
            obtain rfl := Except.ok.inj (halone.symm.trans htext)
            refine Or.inr ⟨Or.inl ⟨rfl, rfl⟩, ?_⟩
            intro other hother heq
            exact hothers other hother (htarget.trans heq.symm)
          · exact Or.inl ⟨other, hother, hpath, htext⟩
        · obtain ⟨hfirst, hrest⟩ := List.forall_mem_cons.mp hnone
          refine Or.inr ⟨Or.inr ⟨hold, ?_⟩, hrest⟩
          rintro rfl
          exact hfirst htarget

theorem failures_eq_nil_iff {sources : List String} : failures env compiler host sources = [] ↔
    ∀ source ∈ sources, ∃ text, alone env compiler host source = .ok text := by
  unfold failures
  rw [List.filterMap_eq_nil_iff]
  refine forall_congr' fun source => imp_congr_right fun _ => ?_
  rcases alone env compiler host source with e | text <;> simp

/-- The output is the archive with one more file for every source: what it comes to by itself,
under a name of its own. -/
structure Overlays (env : Environment) (compiler : Compiler σ) (host : σ) (output : Archive) :
    Prop where
  files : ∀ path text, (path, text) ∈ output.files ↔
    (∃ source ∈ sources env.settings env.archive,
      env.settings.convention.compiledCounterpart source = some path ∧
      alone env compiler host source = .ok text) ∨
    ((path, text) ∈ env.archive.files ∧ ∀ source ∈ sources env.settings env.archive,
      env.settings.convention.compiledCounterpart source ≠ some path)
  compiled : ∀ source ∈ sources env.settings env.archive, ∃ target text,
    env.settings.convention.compiledCounterpart source = some target ∧
    alone env compiler host source = .ok text ∧ output.findFile target = some text
  distinct : ∀ source ∈ sources env.settings env.archive,
    ∀ other ∈ sources env.settings env.archive,
      env.settings.convention.compiledCounterpart source
        = env.settings.convention.compiledCounterpart other → source = other
  /-- No source is changed. -/
  unchanged : ∀ source ∈ sources env.settings env.archive,
    output.findFile source = env.archive.findFile source

theorem overlays_foldl (htidy : env.archive.Tidy) (hsuffixes : UsualSuffixes env.settings)
    (hall : ∀ source ∈ sources env.settings env.archive,
      ∃ text, alone env compiler host source = .ok text) :
    Overlays env compiler host
      ((sources env.settings env.archive).foldl (addAlone env compiler host) env.archive) := by
  have htargets : ∀ source ∈ sources env.settings env.archive, ∃ compiled target,
      alone env compiler host source = .ok compiled ∧
      env.settings.convention.compiledCounterpart source = some target ∧
      Archive.Normal target.toList := by
    intro source hsource
    obtain ⟨compiled, halone⟩ := hall source hsource
    obtain ⟨hmem, hissource⟩ := mem_sources.mp hsource
    obtain ⟨target, htarget⟩ := compiledCounterpart_of_isSource hissource
    exact ⟨compiled, target, halone, htarget,
      SuffixConvention.normal_of_sourceCounterpart (endings_of_usualSuffixes hsuffixes)
        (SuffixConvention.counterparts.mpr htarget) (htidy source hmem)⟩
  have hfiles := fun path text =>
    mem_files_foldl_addAlone path text htargets
      (pairwise_compiledCounterpart env.settings env.archive) env.archive
  refine ⟨hfiles, ?_, fun source hsource _ _ heq =>
    eq_of_compiledCounterpart_eq (mem_sources.mp hsource).2 heq, ?_⟩
  · intro source hsource
    obtain ⟨text, target, halone, htarget, hnormal⟩ := htargets source hsource
    refine ⟨target, text, htarget, halone, ?_⟩
    rw [Archive.findFile_eq_some_iff hnormal, hfiles]
    exact Or.inl ⟨source, hsource, htarget, halone⟩
  · intro source hsource
    obtain ⟨hmem, hissource⟩ := mem_sources.mp hsource
    have hnormal := htidy source hmem
    refine Option.ext fun text => ?_
    rw [Archive.findFile_eq_some_iff hnormal, Archive.findFile_eq_some_iff hnormal, hfiles]
    have hnone : ∀ other ∈ sources env.settings env.archive,
        env.settings.convention.compiledCounterpart other ≠ some source := by
      intro other _ heq
      rw [isSource_of_compiledCounterpart hsuffixes heq] at hissource
      cases hissource
    constructor
    · rintro (⟨other, hother, heq, -⟩ | ⟨hold, -⟩)
      · exact absurd heq (hnone other hother)
      · exact hold
    · exact fun hold => Or.inr ⟨hold, hnone⟩

theorem overlays_of_ok (htidy : env.archive.Tidy) (hsuffixes : UsualSuffixes env.settings)
    (hcompiler : compiler.Reproducible) {before : σ} (host : σ) {output : Archive}
    (h : (compile env compiler before).1 = .ok output) : Overlays env compiler host output := by
  rw [compile_fst hcompiler before host] at h
  by_cases hnil : failures env compiler host (sources env.settings env.archive) = []
  · rw [hnil] at h
    obtain rfl := Except.ok.inj h
    exact overlays_foldl htidy hsuffixes (failures_eq_nil_iff.mp hnil)
  · obtain ⟨e, hmerge, -⟩ := CompilationError.merge_of_ne_nil hnil
    rw [hmerge] at h
    cases h

/-- **A batch gives what its sources come to by themselves**, whatever the state of the host and
whatever was compiled before.  If all sources come to a text, the output is the archive with
these texts; if some do not, their errors are reported together, each once and in the order of
the paths. -/
theorem compile_eq_alone (env : Environment) {files : List (String × String)}
    (harchive : env.archive = .ofFiles files) (hsuffixes : UsualSuffixes env.settings)
    (compiler : Compiler σ) (hcompiler : compiler.Reproducible) (before host : σ) :
    ((∀ source ∈ sources env.settings env.archive, ∃ text,
        alone env compiler host source = .ok text) →
      ∃ output, (compile env compiler before).1 = .ok output ∧
        Overlays env compiler host output) ∧
    ((∃ source ∈ sources env.settings env.archive, ∃ e,
        alone env compiler host source = .error e) →
      ∃ e, (compile env compiler before).1 = .error e ∧
        CompilationError.Joins
          (failures env compiler host (sources env.settings env.archive)) e) ∧
    (sources env.settings env.archive).Pairwise (· < ·) := by
  have htidy : env.archive.Tidy := harchive ▸ Archive.tidy_ofFiles files
  refine ⟨?_, ?_, pairwise_sources _ _⟩
  · intro hall
    refine ⟨_, ?_, overlays_foldl htidy hsuffixes hall⟩
    rw [compile_fst hcompiler before host, failures_eq_nil_iff.mpr hall]
    rfl
  · rintro ⟨source, hsource, e, halone⟩
    have hne : failures env compiler host (sources env.settings env.archive) ≠ [] := by
      intro hnil
      obtain ⟨text, htext⟩ := failures_eq_nil_iff.mp hnil source hsource
      rw [htext] at halone
      cases halone
    obtain ⟨joined, hmerge, hjoins⟩ := CompilationError.merge_of_ne_nil hne
    refine ⟨joined, ?_, hjoins⟩
    rw [compile_fst hcompiler before host, hmerge]

/-- A compiler that puts a mark before each text and refuses empty ones.  Every other time it
asks for a module that it makes no use of. -/
def marking : Compiler Nat := fun count source =>
  .ask source none fun answer =>
    let result : Except CompilationError String :=
      match answer with
      | .ok (some found) =>
        if found.artifact.contents = "" then .error (.ofMessage source "nothing to compile")
        else .ok ("// " ++ found.artifact.contents)
      | _ => .error (.ofMessage source "no such source")
    if count % 2 = 0 then .finish (count + 1) result
    else .ask "./a.ts" (some source) fun _ => .finish (count + 1) result

theorem reproducible_marking : marking.Reproducible := by
  intro answers source host host'
  by_cases h : host % 2 = 0
  · by_cases h' : host' % 2 = 0 <;> simp [marking, CompilerRun.answeredBy, h, h']
  · by_cases h' : host' % 2 = 0 <;> simp [marking, CompilerRun.answeredBy, h, h']

/-- A project with two sources, of which one has been compiled before. -/
def twoSources (text : String) : Environment :=
  { archive := .ofFiles [("./.atomist/a.ts", "a"), (".atomist\\lib\\b.ts", text),
      (".atomist/a.js", "old"), ("d.ts", "d")] }

theorem sources_twoSources (text : String) :
    sources (twoSources text).settings (twoSources text).archive
      = [".atomist/a.ts", ".atomist/lib/b.ts"] := by cbv

/-- Both sources are compiled, and the output overlays the archive; or one is refused, and
that is what is reported. -/
theorem compile_eq_alone_twoSources :
    (∃ output, (compile (twoSources "b") marking 1).1 = .ok output ∧
      Overlays (twoSources "b") marking 0 output) ∧
    (∃ e, (compile (twoSources "") marking 1).1 = .error e ∧
      CompilationError.Joins [.ofMessage ".atomist/lib/b.ts" "nothing to compile"] e) := by
  refine ⟨?_, ?_⟩
  · refine (compile_eq_alone (twoSources "b") rfl rfl marking reproducible_marking 1 0).1 ?_
    rw [sources_twoSources]
    intro source hsource
    rcases List.mem_cons.mp hsource with rfl | hsource
    · exact ⟨"// a", by rfl⟩
    · rw [List.mem_singleton.mp hsource]
      exact ⟨"// b", by rfl⟩
  · obtain ⟨e, hcompile, hjoins⟩ :=
      (compile_eq_alone (twoSources "") rfl rfl marking reproducible_marking 1 0).2.1
        ⟨".atomist/lib/b.ts", by rw [sources_twoSources]; simp,
          .ofMessage ".atomist/lib/b.ts" "nothing to compile", by rfl⟩
    refine ⟨e, hcompile, ?_⟩
    rw [sources_twoSources] at hjoins
    exact hjoins

/-! ### The same module on demand -/

/-- **What a batch has compiled is what asking for it compiles on demand**, if it was not to be
found before: the same text, known by the same name. -/
theorem executable_eq_batch (env : Environment) {files : List (String × String)}
    (harchive : env.archive = .ofFiles files) (hsuffixes : UsualSuffixes env.settings)
    (compiler : Compiler σ) (hcompiler : compiler.Reproducible) (before host : σ)
    {output : Archive} (hbatch : (compile env compiler before).1 = .ok output)
    {source target : String} (hsource : source ∈ sources env.settings env.archive)
    (htarget : env.settings.convention.compiledCounterpart source = some target)
    (hmiss : (find env {} target none).1 = .ok none) :
    ∃ text, (executable env compiler { host := host } target none).1
        = .ok (some ⟨⟨target, text⟩, some (.compiled source)⟩) ∧
      ∃ shelf, (find { env with archive := output } {} target none).1
        = .ok (some ⟨⟨target, text⟩, shelf⟩) := by
  have htidy : env.archive.Tidy := harchive ▸ Archive.tidy_ofFiles files
  have hmem := (mem_sources.mp hsource).1
  obtain ⟨other, text, hother, halone, hfile⟩ :=
    (overlays_of_ok htidy hsuffixes hcompiler host hbatch).compiled source hsource
  obtain rfl := Option.some.inj (htarget.symm.trans hother)
  refine ⟨text, ?_, find_of_file hfile⟩
  -- The source is found as it stands, whatever looking for the compiled file has left.
  obtain ⟨⟨path, contents⟩, hentry, rfl⟩ := List.mem_map.mp hmem
  have hcontents := (Archive.findFile_eq_some_iff (htidy path hmem)).mpr hentry
  obtain ⟨shelf, hfound⟩ := find_of_file hcontents
  have hknown := (find_asFresh (recalls_empty env) target none).recalls
  have hsecond := find_asFresh hknown path none
  have hreaches : Reaches ⟨env, target, none, none⟩ {} path
      (find env (find env {} target none).2 path none).2 :=
    ⟨(find env {} target none).2, path, _, Prod.ext hmiss rfl,
      SuffixConvention.counterparts.mpr htarget,
      Prod.ext (hsecond.answer.trans hfound) rfl, rfl⟩
  have hanswer := answer_of_reaches compiler { host := host } ⟨env, target, none, none⟩ hreaches
  have hcompiled := compileOnce_of_alone hcompiler
    ⟨(find env (find env {} target none).2 path none).2, [], host⟩
    hsecond.recalls rfl host halone target
  rw [htarget] at hcompiled
  exact (congrArg Prod.fst hanswer).trans hcompiled

/-- A project whose sources lie next to the directory that paths start from. -/
def sibling : Environment :=
  { settings := { projectRoot := ".." }, archive := .ofFiles [("../lib/b.ts", "b")] }

theorem find_sibling : (find sibling {} "../lib/b.js" none).1 = .ok none := by
  have habsent : search sibling "../lib/b.js" = .ok none :=
    search_absent (by rfl) rfl (by decide)
  unfold find
  rw [findIn_of_unbased rfl (by decide)]
  simp [findUnbased, habsent, passing, Except.map]

theorem sources_sibling : sources sibling.settings sibling.archive = ["../lib/b.ts"] := by cbv

/-- A path that climbs above its start is no exception. -/
theorem executable_eq_batch_sibling :
    ∃ output text, (compile sibling marking 0).1 = .ok output ∧
      (executable sibling marking { host := 1 } "../lib/b.js" none).1
        = .ok (some ⟨⟨"../lib/b.js", text⟩, some (.compiled "../lib/b.ts")⟩) ∧
      ∃ shelf, (find { sibling with archive := output } {} "../lib/b.js" none).1
        = .ok (some ⟨⟨"../lib/b.js", text⟩, shelf⟩) := by
  have hsource : "../lib/b.ts" ∈ sources sibling.settings sibling.archive := by
    rw [sources_sibling]
    exact List.mem_cons_self
  have hnil : failures sibling marking 0 (sources sibling.settings sibling.archive) = [] := by
    rw [sources_sibling]
    refine failures_eq_nil_iff.mpr fun source hmem => ?_
    rw [List.mem_singleton.mp hmem]
    exact ⟨"// b", by rfl⟩
  have hbatch : (compile sibling marking 0).1 = _ := compile_fst reproducible_marking 0 0
  rw [hnil] at hbatch
  obtain ⟨text, hexecutable, hfound⟩ :=
    executable_eq_batch sibling rfl rfl marking reproducible_marking 0 1 hbatch hsource
      (by rfl) find_sibling
  exact ⟨_, text, hbatch, hexecutable, hfound⟩

end WholeArchive

end ModuleLoader
