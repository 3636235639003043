/-
Where what is handed out is kept.

A request hands out what its search finds, or what the source that it comes down to was compiled
to, before or just now (`Does`).  Either stays: a name that has an artifact keeps it, a source
that was compiled stays compiled, and a relative name that is found finds the same again
(`Stands`).  So what was handed out at some time is still there however the session goes on.

The slots hold modules that are not found: the name that a source's module goes by finds nothing,
for otherwise the source would not have been compiled (`Unfound`).
-/
import ModuleLoader.Proofs.Compile.Calls
import ModuleLoader.Proofs.Search.Identity

namespace ModuleLoader.OnDemand

open Search

variable {σ : Type} {env : Environment}

/-! ### What a request does -/

/-- A module that is not found as such is looked for as a source. -/
theorem executableIn_of_unfound (compiler : Compiler σ) (state : CompileState σ) {specifier : String}
    {base : Option String} {context : Option Artifact} {raw : RawCache}
    (h : findIn env state.raw specifier base context = (.ok none, raw)) :
    executableIn env compiler state specifier base context =
      fromSource env compiler { state with raw := raw } specifier base context := by
  unfold executableIn
  rw [h]
  by_cases hkind : env.settings.convention.kindOf specifier = .compiled
  · simp only [hkind, if_pos]
  · have hnone : env.settings.convention.sourceCounterpart specifier = none := by
      rwa [SuffixConvention.sourceCounterpart_eq_none_iff, ← SuffixConvention.kindOf_eq_compiled_iff]
    simp only [hkind, if_neg, not_false_eq_true]
    unfold fromSource
    rw [hnone]

/-- What a request does: it compiles nothing and hands out what it has found, if anything; or it
comes down to a source and hands out what that was compiled to, before or just now. -/
inductive Does (request : Request) (before after : CompileState σ) : Outcome → Prop
  | found (outcome : Outcome) (hslots : ∀ u, compiled? after u = compiled? before u)
      (hfound : ∀ found, outcome = .ok (some found) →
        findIn request.env before.raw request.specifier request.base request.context
          = (.ok (some found), after.raw)) :
      Does request before after outcome
  | again (source : String) (artifact : Artifact) (raw : RawCache)
      (hreach : Reaches request before.raw source raw)
      (hslots : ∀ u, compiled? after u = compiled? before u)
      (hslot : compiled? before source = some artifact) :
      Does request before after (.ok (some ⟨artifact, some (.compiled source)⟩))
  | made (source : String) (artifact : Artifact) (raw : RawCache)
      (hreach : Reaches request before.raw source raw)
      (huri : artifact.uri = (request.env.settings.convention.compiledCounterpart source).getD
        request.specifier)
      (hempty : compiled? before source = none)
      (hslots : ∀ u, compiled? after u = if u = source then some artifact else compiled? before u) :
      Does request before after (.ok (some ⟨artifact, some (.compiled source)⟩))

/-- A request that comes down to a source hands out what that was compiled to, if anything. -/
theorem compileOnce_does (compiler : Compiler σ) (state : CompileState σ) {request : Request}
    {source : String} {raw : RawCache} (hreach : Reaches request state.raw source raw) :
    Does request state
      (compileOnce request.env compiler { state with raw := raw } source request.specifier).2
      (compileOnce request.env compiler { state with raw := raw } source request.specifier).1 := by
  unfold compileOnce
  rw [show compiled? { state with raw := raw } source = compiled? state source from rfl]
  rcases hslot : compiled? state source with _ | artifact
  · unfold compile
    rcases run request.env (compiler state.host source) raw with ⟨⟨e | output, host⟩, raw'⟩
    · refine .found _ (fun u => ?_) fun found hfound => by cases hfound
      refine (compiled?_setSlot { state with raw := raw } raw' host source u _).trans ?_
      by_cases hu : u = source
      · rw [if_pos hu, hu]
        rfl
      · rw [if_neg hu]
        rfl
    · exact .made source ⟨_, output⟩ raw hreach rfl hslot
        fun u => compiled?_setSlot { state with raw := raw } raw' host source u _
  · exact .again source artifact raw hreach (fun u => rfl) hslot

/-- A request that comes down to no source hands out what it finds, if anything. -/
theorem found_does (compiler : Compiler σ) (state : CompileState σ) {request : Request}
    (hnone : ∀ source raw, ¬ Reaches request state.raw source raw) :
    Does request state (answer compiler state request).2 (answer compiler state request).1 := by
  rcases hfind : findIn request.env state.raw request.specifier request.base request.context
    with ⟨e | _ | found, raw⟩
  · unfold answer executableIn
    rw [hfind]
    exact .found _ (fun u => rfl) fun found hfound => by cases hfound
  · unfold answer
    rw [executableIn_of_unfound compiler state hfind]
    unfold fromSource
    rcases hname : request.env.settings.convention.sourceCounterpart request.specifier
      with _ | counterpart
    · exact .found _ (fun u => rfl) fun found hfound => by cases hfound
    · simp only
      rcases hsource : findIn request.env raw counterpart request.base request.context
        with ⟨e | _ | found, raw'⟩
      · exact .found _ (fun u => rfl) fun found hfound => by cases hfound
      · exact .found _ (fun u => rfl) fun found hfound => by cases hfound
      · exact absurd ⟨raw, counterpart, found, hfind, hname, hsource, rfl⟩ (hnone _ raw')
  · rw [answer_of_found compiler state request hfind]
    refine .found _ (fun u => rfl) fun other hother => ?_
    cases hother
    exact hfind

/-- **Every request does one of the three.** -/
theorem answer_does (compiler : Compiler σ) (state : CompileState σ) (request : Request) :
    Does request state (answer compiler state request).2 (answer compiler state request).1 := by
  by_cases h : ∃ source raw, Reaches request state.raw source raw
  · obtain ⟨source, raw, hreach⟩ := h
    rw [answer_of_reaches compiler state request hreach]
    exact compileOnce_does compiler state hreach
  · exact found_does compiler state fun source raw hreach => h ⟨source, raw, hreach⟩

/-! ### What becomes of what was found -/

section Preserves

variable {I : RawCache → Prop} (hadd : ∀ cache key artifact, I cache → cache.get? key = none →
  Origin env key artifact → I (cache.add key artifact))

include hadd

theorem run_preserves (r : CompilerRun σ) :
    ∀ {cache : RawCache}, I cache → I (run env r cache).2 := by
  induction r with
  | finish state result => intro cache h; exact h
  | ask specifier base next ih =>
      intro cache h
      exact ih _ ((findIn_searches env cache specifier base none).preserves hadd h)

variable (compiler : Compiler σ) {state : CompileState σ}

theorem compileOnce_preserves (h : I state.raw) (source requested : String) :
    I (compileOnce env compiler state source requested).2.raw := by
  unfold compileOnce
  rcases compiled? state source with _ | artifact
  · have hrun := run_preserves hadd (compiler state.host source) h
    unfold compile
    rcases hx : run env (compiler state.host source) state.raw with ⟨⟨e | output, host⟩, raw⟩
    · rw [hx] at hrun
      exact hrun
    · rw [hx] at hrun
      exact hrun
  · exact h

theorem fromSource_preserves (h : I state.raw) (specifier : String) (base : Option String)
    (context : Option Artifact) :
    I (fromSource env compiler state specifier base context).2.raw := by
  unfold fromSource
  rcases env.settings.convention.sourceCounterpart specifier with _ | counterpart
  · exact h
  · have hsearch := (findIn_searches env state.raw counterpart base context).preserves hadd h
    simp only
    rcases hx : findIn env state.raw counterpart base context with ⟨e | _ | source, raw⟩
    · rw [hx] at hsearch
      exact hsearch
    · rw [hx] at hsearch
      exact hsearch
    · rw [hx] at hsearch
      exact compileOnce_preserves hadd compiler hsearch source.artifact.uri specifier

/-- What one more entry does not change, a request does not change. -/
theorem executableIn_preserves (h : I state.raw) (specifier : String) (base : Option String)
    (context : Option Artifact) :
    I (executableIn env compiler state specifier base context).2.raw := by
  have hsearch := (findIn_searches env state.raw specifier base context).preserves hadd h
  rcases hx : findIn env state.raw specifier base context with ⟨e | _ | found, raw⟩
  · rw [hx] at hsearch
    unfold executableIn
    rw [hx]
    exact hsearch
  · rw [hx] at hsearch
    rw [executableIn_of_unfound compiler state hx]
    exact fromSource_preserves hadd compiler hsearch specifier base context
  · rw [hx] at hsearch
    unfold executableIn
    rw [hx]
    exact hsearch

end Preserves

section Requests

variable (compiler : Compiler σ) {state : CompileState σ} (specifier : String)
  (base : Option String) (context : Option Artifact)

theorem executableIn_grounded (h : Grounded env state.raw) :
    Grounded env (executableIn env compiler state specifier base context).2.raw :=
  executableIn_preserves (fun _ _ _ h _ horigin => h.add horigin) compiler h specifier base context

theorem executableIn_labelled (h : Labelled state.raw) :
    Labelled (executableIn env compiler state specifier base context).2.raw :=
  executableIn_preserves (fun _ _ _ h _ horigin => h.add horigin) compiler h specifier base context

theorem executableIn_keepsEntries :
    state.raw.entries <+: (executableIn env compiler state specifier base context).2.raw.entries :=
  executableIn_preserves (I := fun cache => state.raw.entries <+: cache.entries)
    (fun cache key artifact h _ _ => h.trans (List.prefix_append cache.entries [(key, artifact)]))
    compiler (List.prefix_refl _) specifier base context

end Requests

/-! ### What stays -/

/-- What was handed out is still where it was. -/
inductive Stands (env : Environment) (state : CompileState σ) : Found → Prop
  | found (name : String) (found : Found) (h : HandsOut env state.raw name found) :
      Stands env state found
  | compiled (source : String) (artifact : Artifact) (h : compiled? state source = some artifact) :
      Stands env state ⟨artifact, some (.compiled source)⟩

variable {request : Request} {before after : CompileState σ} {outcome : Outcome}

theorem Does.filled (h : Does request before after outcome) {source : String} {artifact : Artifact}
    (hslot : compiled? before source = some artifact) : compiled? after source = some artifact := by
  cases h with
  | found _ hslots _ => rw [hslots, hslot]
  | again _ _ _ _ hslots _ => rw [hslots, hslot]
  | made other _ _ _ _ hempty hslots =>
      have hne : source ≠ other := by
        rintro rfl
        rw [hempty] at hslot
        cases hslot
      rw [hslots, if_neg hne, hslot]

/-- What a request hands out stands when it has been answered. -/
theorem Does.stands (h : Does request before after outcome) (hg : Grounded request.env before.raw)
    {found : Found} (hfound : outcome = .ok (some found)) : Stands request.env after found := by
  cases h with
  | found _ _ hfind =>
      have hfind := hfind found hfound
      obtain ⟨name, -, hhands⟩ := findIn_handsOut hg.labelled (congrArg Prod.fst hfind)
      rw [hfind] at hhands
      exact .found name found hhands
  | again source artifact _ _ hslots hslot =>
      cases hfound
      exact .compiled source artifact ((hslots source).trans hslot)
  | made source artifact _ _ _ _ hslots =>
      cases hfound
      exact .compiled source artifact ((hslots source).trans (if_pos rfl))

/-- What stands is not changed by requests. -/
theorem Stands.executableIn {found : Found} {state : CompileState σ} (h : Stands env state found)
    (compiler : Compiler σ) (specifier : String) (base : Option String)
    (context : Option Artifact) :
    Stands env (executableIn env compiler state specifier base context).2 found := by
  cases h with
  | found name _ h =>
      exact .found name found (h.mono (executableIn_keepsEntries compiler specifier base context))
  | compiled source artifact h =>
      exact .compiled source artifact
        ((answer_does compiler state ⟨env, specifier, base, context⟩).filled h)

/-! ### What the slots hold -/

/-- Modules that were compiled from sources with logical paths are not found by their names. -/
def Unfound (env : Environment) (state : CompileState σ) : Prop :=
  ∀ source artifact, compiled? state source = some artifact → Reference.isAbsolute source = false →
    search env artifact.uri = .ok none

/-- A request that comes down to a source with a logical path compiles it under a name that finds
nothing. -/
theorem Reaches.unfound {raw raw' : RawCache} {source : String} (h : Reaches request raw source raw')
    (hg : Grounded request.env raw) (hendings : request.env.settings.convention.Endings)
    (hlogical : Reference.isAbsolute source = false) :
    ∃ name, request.env.settings.convention.compiledCounterpart source = some name ∧
      search request.env name = .ok none := by
  obtain ⟨known, counterpart, found, hmiss, hname, hfound, rfl⟩ := h
  obtain ⟨name, hcounterpart, hnone⟩ :=
    findIn_counterpart hg hendings hname hmiss (congrArg Prod.fst hfound) hlogical
  exact ⟨name, SuffixConvention.counterparts.mp hcounterpart, hnone⟩

theorem Does.unfound (h : Does request before after outcome) (hg : Grounded request.env before.raw)
    (hendings : request.env.settings.convention.Endings) (hunfound : Unfound request.env before) :
    Unfound request.env after := by
  intro source artifact hslot hlogical
  cases h with
  | found _ hslots _ => exact hunfound source artifact (by rw [← hslots, hslot]) hlogical
  | again _ _ _ _ hslots _ => exact hunfound source artifact (by rw [← hslots, hslot]) hlogical
  | made other made _ hreach huri _ hslots =>
      rw [hslots] at hslot
      by_cases hsource : source = other
      · rw [if_pos hsource] at hslot
        obtain rfl := Option.some.inj hslot
        rw [hsource] at hlogical
        obtain ⟨name, hname, hnone⟩ := hreach.unfound hg hendings hlogical
        rw [huri, hname]
        exact hnone
      · rw [if_neg hsource] at hslot
        exact hunfound source artifact hslot hlogical

end ModuleLoader.OnDemand
