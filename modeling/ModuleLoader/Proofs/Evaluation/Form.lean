/-
The forms of what runs.

A module that is loaded to run is asked for by a name with the compiled suffix.  What a search
finds for such a name goes by a name with that suffix, or by a URL that ends in a slash, and so
does what its source was compiled to.  So where no name has both suffixes, nothing ever runs under
the name of a source; where one suffix is the end of the other, a file with both is run as it
stands (`forms_apart`).
-/
import ModuleLoader.Proofs.Compile.Shelves
import ModuleLoader.Proofs.Compile.Sources
import ModuleLoader.Proofs.Evaluation.Bases
import ModuleLoader.Proofs.Url.Closing

namespace ModuleLoader

/-- Both suffixes are endings that URLs keep. -/
structure SuffixConvention.UrlEndings (convention : SuffixConvention) : Prop where
  compiled : Url.Ending convention.compiled.toList
  source : Url.Ending convention.source.toList

instance (convention : SuffixConvention) : Decidable convention.UrlEndings :=
  decidable_of_iff (Url.Ending convention.compiled.toList ∧ Url.Ending convention.source.toList)
    ⟨fun h => ⟨h.1, h.2⟩, fun h => ⟨h.compiled, h.source⟩⟩

namespace Search

variable {ending : List Char}

/-- All names that a specifier means have its ending. -/
theorem Denotes.suffix (h : Url.Ending ending) {specifier name : String} {base : Option String}
    {context : Option Artifact} (hdenotes : Denotes specifier base context name)
    (hsuffix : ending <:+ specifier.toList) : ending <:+ name.toList := by
  cases hdenotes with
  | text => exact hsuffix
  | against _ _ _ _ _ hrel hresolve => exact Reference.suffix_resolve h hrel hresolve hsuffix
  | running _ _ _ hrel hresolve => exact Reference.suffix_resolve h hrel hresolve hsuffix

theorem KnownBy.closes (h : Url.Ending ending) {name : String} {artifact : Artifact}
    (hknown : KnownBy name artifact) (hsuffix : ending <:+ name.toList) :
    Url.Closes ending artifact.uri.toList := by
  rcases hknown with heq | ⟨url, hurl, heq⟩
  · rw [heq]
    exact Or.inl hsuffix
  · rw [heq, Url.text, String.toList_ofList]
    exact Url.parse_closes h hsuffix hurl

/-- What is found has the ending of the specifier, or it is known by a URL that ends in a slash. -/
theorem findIn_closes (h : Url.Ending ending) {env : Environment} {cache : RawCache}
    (hlabelled : Labelled cache) {specifier : String} {base : Option String}
    {context : Option Artifact} {found : Found} (hsuffix : ending <:+ specifier.toList)
    (hfound : (findIn env cache specifier base context).1 = .ok (some found)) :
    Url.Closes ending found.artifact.uri.toList := by
  obtain ⟨name, hdenotes, hhands⟩ := findIn_handsOut hlabelled hfound
  exact (hhands.knownBy (hlabelled.findIn specifier base context)).closes h
    (hdenotes.suffix h hsuffix)

end Search

namespace Evaluation

open OnDemand (compiled? Does answer_does)
open Search (Labelled)

variable {σ : Type} {env : Environment} {convention : SuffixConvention}

/-- What holds of the names in a state: whatever is kept is known by its name, what was compiled
has the compiled suffix, and so has what is running, unless it ends in a slash. -/
structure InForm (convention : SuffixConvention) (state : Evaluation σ) : Prop where
  labelled : Labelled state.raw
  compiled : ∀ source artifact, compiled? state.toCompileState source = some artifact →
    convention.compiled.toList <:+ artifact.uri.toList
  running : ∀ artifact ∈ state.stack, Url.Closes convention.compiled.toList artifact.uri.toList

/-! ### One load -/

section Load

variable {state : Evaluation σ} (hending : Url.Ending env.settings.convention.compiled.toList)
  (h : InForm env.settings.convention state)

include hending h

/-- A request for a compiled module comes to one, whether it is found or compiled. -/
theorem InForm.does {specifier : String} {base : Option String} {context : Option Artifact}
    {after : CompileState σ} {outcome : Outcome}
    (hdoes : Does ⟨env, specifier, base, context⟩ state.toCompileState after outcome) :
    (∀ source artifact, compiled? after source = some artifact →
      env.settings.convention.compiled.toList <:+ artifact.uri.toList) ∧
    ∀ found, outcome = .ok (some found) → env.settings.convention.kindOf specifier = .compiled →
      Url.Closes env.settings.convention.compiled.toList found.artifact.uri.toList := by
  cases hdoes with
  | found _ hslots hfind =>
      refine ⟨fun source artifact hslot => h.compiled source artifact (by rw [← hslots, hslot]), ?_⟩
      intro found hfound hkind
      exact Search.findIn_closes hending h.labelled (SuffixConvention.kindOf_eq_compiled_iff.mp hkind)
        (congrArg Prod.fst (hfind found hfound))
  | again source artifact _ _ hslots hslot =>
      refine ⟨fun source artifact hslot => h.compiled source artifact (by rw [← hslots, hslot]), ?_⟩
      intro found hfound _
      cases hfound
      exact Or.inl (h.compiled source artifact hslot)
  | made source artifact raw hreach huri _ hslots =>
      have hmade : env.settings.convention.compiled.toList <:+ artifact.uri.toList := by
        rcases hname : env.settings.convention.compiledCounterpart source with _ | name
        · obtain ⟨-, counterpart, -, -, hcounterpart, -⟩ := hreach
          rw [huri, hname]
          exact (SuffixConvention.suffixes_of_compiledCounterpart
            (SuffixConvention.counterparts.mp hcounterpart)).2
        · rw [huri, hname]
          exact (SuffixConvention.suffixes_of_compiledCounterpart hname).2
      refine ⟨?_, ?_⟩
      · intro other made hslot
        rw [hslots] at hslot
        by_cases hother : other = source
        · rw [if_pos hother] at hslot
          rw [← Option.some.inj hslot]
          exact hmade
        · rw [if_neg hother] at hslot
          exact h.compiled other made hslot
      · intro found hfound _
        cases hfound
        exact Or.inl hmade

theorem InForm.resolve (host : Host σ) (specifier : String) (base : Option String) :
    InForm env.settings.convention (resolve env host state specifier base).2 ∧
    ∀ found, (Evaluation.resolve env host state specifier base).1 = .ok (some found) →
      env.settings.convention.kindOf specifier = .compiled →
      Url.Closes env.settings.convention.compiled.toList found.artifact.uri.toList := by
  obtain ⟨hcompiled, hfound⟩ := h.does hending
    (answer_does host.compiler state.toCompileState ⟨env, specifier, base, state.context?⟩)
  have hlabelled : Labelled (Evaluation.resolve env host state specifier base).2.raw :=
    OnDemand.executableIn_labelled host.compiler specifier base state.context? h.labelled
  exact ⟨⟨hlabelled, hcompiled, h.running⟩, hfound⟩

end Load

theorem invariant_inForm (hending : Url.Ending env.settings.convention.compiled.toList)
    (host : Host σ) :
    Invariant env host (fun _ _ => True) (InForm env.settings.convention) where
  resolved := fun h _ => (h.resolve hending host _ _).1
  pushed := by
    intro state specifier base runtime found h _ hdue
    obtain ⟨hfound, -, hkind, -, -⟩ := due?_eq_some_iff.mp hdue
    obtain ⟨hresolved, hform⟩ := h.resolve hending host specifier base
    refine ⟨hresolved.labelled, hresolved.compiled, ?_⟩
    intro artifact hmem
    rcases List.mem_cons.mp hmem with rfl | hmem
    · exact hform found hfound hkind
    · exact hresolved.running artifact hmem
  confined := fun _ _ _ _ _ => confined_true _
  moved := fun inner h => ⟨h.labelled, h.compiled, h.running⟩
  left := by
    intro state depth specifier found result h
    have hrunning : ∀ artifact ∈ state.stack.drop (state.stack.length - depth),
        Url.Closes env.settings.convention.compiled.toList artifact.uri.toList :=
      fun artifact hmem => h.running artifact (List.mem_of_mem_drop hmem)
    rcases result with cause | _
    · exact ⟨h.labelled, h.compiled, hrunning⟩
    · exact ⟨h.labelled, h.compiled, hrunning⟩

/-! ### Histories -/

/-- Whatever is loaded, nothing runs under a name that a source has. -/
def RunsNoSource (convention : SuffixConvention) : Prop :=
  ∀ (σ : Type) (host : Host σ) (limit : Nat) (calls : List Call) (inner : σ),
    (∀ call ∈ calls, call.env.settings.convention = convention) →
    ∀ m ∈ (observeAll host limit calls { host := inner }).history,
      ∀ u, m.event = .start u → convention.compiledCounterpart u = none

theorem runsNoSource (hendings : convention.UrlEndings) (hapart : convention.Apart) :
    RunsNoSource convention := by
  intro σ host limit calls inner hcalls m hm u hstart
  have hinvariant : ∀ call ∈ calls,
      Invariant call.env host (fun _ _ => True) (InForm convention) := by
    intro call hcall
    have hconvention := hcalls call hcall
    subst hconvention
    exact invariant_inForm hendings.compiled host
  have hfresh : InForm convention ({ host := inner } : Evaluation σ) := by
    refine ⟨Search.labelled_empty, ?_, ?_⟩
    · intro source artifact hslot
      cases hslot
    · intro artifact hmem
      cases hmem
  have hkeeps : Keeps (InForm convention) (observeAll host limit calls { host := inner }) :=
    observeAll_keeps hinvariant (fun _ _ => trivial) hfresh
  have hform := hkeeps.history m hm
  -- What begins to run is on top of the stack.
  obtain ⟨last, hpath⟩ := (tracks_observeAll host limit calls { host := inner }).path
  obtain ⟨before, after, hsplit⟩ := List.append_of_mem hm
  obtain ⟨state, -, hstep⟩ := hpath.split hsplit
  cases hstep with
  | load _ _ _ _ _ => cases hstart
  | finish _ _ _ _ _ _ _ => cases hstart
  | start artifact resolved _ _ _ =>
      obtain rfl := Event.start.inj hstart
      rw [SuffixConvention.compiledCounterpart_eq_none_iff]
      rcases hform.running artifact List.mem_cons_self with hcompiled | ⟨front, hslash⟩
      · exact hapart.not_both hcompiled
      · rw [← hslash]
        exact hendings.source.path.not_slash front

/-! ### Names with both suffixes -/

/-- What has happened has happened, whatever comes next. -/
theorem mem_history_andThen {α β : Type} {x : Observed σ α} {m : Moment σ} (h : m ∈ x.history)
    (f : α → Observed σ β) : m ∈ (x.andThen f).history := by
  unfold Observed.andThen
  rcases x.result with _ | a
  · exact h
  · exact List.mem_append_left _ h

/-- A runtime that does nothing. -/
def idle : Runtime Unit := fun host _ _ => .finish host (.ok ())

section Single

open WholeArchive (single)

variable {settings : Settings} {name : String} (hrel : Reference.isRelative name = false)

include hrel

theorem findIn_single (base : Option String) (context : Option Artifact) :
    Search.findIn (single settings name) {} name base context =
      (.ok (some ⟨⟨name, ""⟩, some (.raw name)⟩), ⟨[(name, ⟨name, ""⟩)]⟩) := by
  have hfile := Archive.findFile_addFile Archive.empty name "" name
  rw [if_pos rfl] at hfile
  have hsearch : Search.search (single settings name) name = .ok (some ⟨name, ""⟩) := by
    unfold Search.search
    rw [show (single settings name).archive.findFile name = some "" from hfile]
  rw [Search.findIn_of_fresh rfl hrel, hsearch]
  rfl

/-- A file with the compiled suffix is run as it stands. -/
theorem start_single (hsuffix : settings.convention.compiled.toList <:+ name.toList)
    (compiler : Compiler σ) (runtime : Runtime σ) (limit : Nat) (inner : σ) :
    ∃ m ∈ (observeAll ⟨compiler, some runtime⟩ limit [⟨single settings name, name, none⟩]
      { host := inner }).history, m.event = .start name := by
  have hresolve : (resolve (single settings name) ⟨compiler, some runtime⟩ { host := inner } name
      none).1 = .ok (some ⟨⟨name, ""⟩, some (.raw name)⟩) := by
    unfold resolve OnDemand.executableIn
    rw [findIn_single hrel]
  have hdue : due? (single settings name) ⟨compiler, some runtime⟩ name
      (resolve (single settings name) ⟨compiler, some runtime⟩ { host := inner } name none)
        = some (runtime, ⟨⟨name, ""⟩, some (.raw name)⟩) :=
    due?_eq_some_iff.mpr ⟨hresolve, rfl, SuffixConvention.kindOf_of_suffix hsuffix, rfl, rfl⟩
  have hstart : ∃ m ∈ (observe (single settings name) ⟨compiler, some runtime⟩ limit
      { host := inner } name none).history, m.event = .start name := by
    rcases limit with _ | limit
    · rw [observe_zero_due hdue]
      exact ⟨_, List.mem_cons_of_mem _ List.mem_cons_self, rfl⟩
    · rw [observe_succ_due hdue]
      exact ⟨_, List.mem_cons_of_mem _ List.mem_cons_self, rfl⟩
  obtain ⟨m, hm, hevent⟩ := hstart
  exact ⟨m, mem_history_andThen hm _, hevent⟩

end Single

/-- Where one suffix is the end of the other, a file with both is run as it stands. -/
theorem apart_of_runsNoSource {settings : Settings} (h : RunsNoSource settings.convention) :
    settings.convention.Apart := by
  by_contra hnot
  obtain ⟨longer, hsource, hcompiled⟩ := SuffixConvention.exists_both hnot
  have hname : ("x" ++ longer).toList = 'x' :: longer.toList := by
    rw [String.toList_append]
    rfl
  have hrel : Reference.isRelative ("x" ++ longer) = false := by
    rw [← Bool.not_eq_true, Reference.isRelative_iff]
    rintro ⟨dots, rfl | rfl, rest, heq⟩
    · rw [hname] at heq
      exact absurd (List.cons.inj heq).1 (by decide)
    · rw [hname] at heq
      exact absurd (List.cons.inj heq).1 (by decide)
  have hends : ∀ suffix : String, suffix.toList <:+ longer.toList →
      suffix.toList <:+ ("x" ++ longer).toList := by
    intro suffix hsuffix
    rw [hname]
    exact hsuffix.trans (List.suffix_cons 'x' _)
  obtain ⟨m, hm, hstart⟩ := start_single hrel (hends _ hcompiled) naming idle 1 ()
  have hnone := h Unit _ _ _ _ (by simp [WholeArchive.single]) m hm _ hstart
  exact SuffixConvention.compiledCounterpart_eq_none_iff.mp hnone (hends _ hsource)

/-- **Names keep to their forms exactly if neither suffix is the end of the other.**  Then
counterparts lead from sources to compiled modules and back.  If the suffixes are endings, it is
then, too, that no batch adds a source or changes one, and that nothing runs under the name of a
source, from an archive or from a URL. -/
theorem forms_apart (settings : Settings) :
    (settings.convention.Proper ↔ settings.convention.Apart) ∧
    (WholeArchive.KeepsSources settings ↔ WholeArchive.Spares settings) ∧
    (settings.validate = .ok () → settings.convention.Endings →
      (WholeArchive.KeepsSources settings ↔ settings.convention.Apart ∨
        ∀ path : String, Archive.Normal path.toList → WholeArchive.isSource settings path = false)) ∧
    (RunsNoSource settings.convention → settings.convention.Apart) ∧
    (settings.convention.UrlEndings → settings.convention.Apart →
      RunsNoSource settings.convention) :=
  ⟨SuffixConvention.proper_iff, WholeArchive.keepsSources_iff, WholeArchive.keepsSources_iff_apart,
    apart_of_runsNoSource, runsNoSource⟩

/-- The usual suffixes are apart. -/
theorem forms_apart_usual :
    ({} : Settings).convention.Proper ∧ WholeArchive.KeepsSources {} ∧
      RunsNoSource ({} : Settings).convention := by
  have hapart : ({} : Settings).convention.Apart := by decide
  obtain ⟨hproper, -, hkeeps, -, hruns⟩ := forms_apart {}
  exact ⟨hproper.mpr hapart, (hkeeps (by decide) (by decide)).mpr (Or.inl hapart),
    hruns (by decide) hapart⟩

/-- Settings in which the suffix of sources ends in that of compiled modules. -/
def minified : Settings := { sourceSuffix := ".min.js" }

/-- They pass the checks, and no name that ends in both suffixes keeps to one form. -/
theorem overlap_minified :
    minified.validate = .ok () ∧ minified.convention.kindOf "a.min.js" = .compiled ∧
      minified.convention.compiledCounterpart "a.min.js" = some "a.js" ∧
      ¬ minified.convention.Proper ∧ ¬ WholeArchive.KeepsSources minified ∧
      ¬ RunsNoSource minified.convention := by
  have hvalid : minified.validate = .ok () := by decide
  have hapart : ¬ minified.convention.Apart := by decide
  have hsource : WholeArchive.isSource minified ".atomist/a.min.js" = true := by rfl
  have hnormal : Archive.Normal ".atomist/a.min.js".toList :=
    Archive.normalForm_eq_self_iff.mp (by rfl)
  refine ⟨hvalid, by rfl, by rfl, mt SuffixConvention.proper_iff.mp hapart, ?_,
    mt apart_of_runsNoSource hapart⟩
  rw [WholeArchive.keepsSources_iff_apart hvalid (by decide)]
  rintro (h | hnone)
  · exact hapart h
  · rw [hnone _ hnormal] at hsource
    cases hsource

end Evaluation

end ModuleLoader
