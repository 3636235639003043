/-
Compiling with a cache that holds more.

A compiler sees the cache only through the answers to its questions, and those are alike.
So it comes to the same result, and the two states differ afterwards in no more than they
differed before: in what is held of modules that were found.
-/
import ModuleLoader.Proofs.Search.Cache
import ModuleLoader.Compile.OnDemand

namespace ModuleLoader.OnDemand

open Search

variable {σ : Type} {env : Environment}

/-- The second state has a cache that holds more, and is the same otherwise. -/
structure WidensState (env : Environment) (state wider : CompileState σ) : Prop where
  raw : Widens env state.raw wider.raw
  slots : wider.slots = state.slots
  host : wider.host = state.host

theorem WidensState.withRaw {state wider : CompileState σ} (h : WidensState env state wider)
    {raw raw' : RawCache} (hraw : Widens env raw raw') :
    WidensState env { state with raw := raw } { wider with raw := raw' } :=
  ⟨hraw, h.slots, h.host⟩

theorem run_alike (r : CompilerRun σ) :
    ∀ {cache wider : RawCache}, Widens env cache wider →
      Alike (Widens env) (run env r cache) (run env r wider) := by
  induction r with
  | finish state result => intro cache wider h; exact ⟨rfl, h⟩
  | ask specifier base next ih =>
      intro cache wider h
      obtain ⟨hanswer, hstate⟩ := find_alike h specifier base
      unfold run
      rcases hx : find env cache specifier base with ⟨answer, cache'⟩
      rcases hy : find env wider specifier base with ⟨answer', wider'⟩
      rw [hx, hy] at hanswer hstate
      obtain rfl : answer = answer' := hanswer
      exact ih answer hstate

theorem compile_alike (compiler : Compiler σ) {state wider : CompileState σ}
    (h : WidensState env state wider) (source requested : String) :
    Alike (WidensState env) (compile env compiler state source requested)
      (compile env compiler wider source requested) := by
  have hslot : compiled? wider source = compiled? state source := by
    unfold compiled?
    rw [h.slots]
  obtain ⟨hanswer, hstate⟩ := run_alike (compiler state.host source) h.raw
  unfold compile
  rw [h.host, h.slots, hslot]
  rcases hx : run env (compiler state.host source) state.raw with ⟨⟨result, host⟩, raw⟩
  rcases hy : run env (compiler state.host source) wider.raw with ⟨⟨result', host'⟩, raw'⟩
  rw [hx, hy] at hanswer hstate
  obtain ⟨rfl, rfl⟩ := Prod.mk.inj hanswer
  rcases result with e | output
  · exact ⟨rfl, hstate, rfl, rfl⟩
  · exact ⟨rfl, hstate, rfl, rfl⟩

theorem compileOnce_alike (compiler : Compiler σ) {state wider : CompileState σ}
    (h : WidensState env state wider) (source requested : String) :
    Alike (WidensState env) (compileOnce env compiler state source requested)
      (compileOnce env compiler wider source requested) := by
  have hslot : compiled? wider source = compiled? state source := by
    unfold compiled?
    rw [h.slots]
  unfold compileOnce
  rw [hslot]
  rcases compiled? state source with _ | artifact
  · exact compile_alike compiler h source requested
  · exact ⟨rfl, h⟩

/-! ### Requests

A request makes one or two searches, for the name that is asked for and for that of its
source.  If they answer alike, so does the request; they may belong to two requests that
differ in their base.
-/

theorem fromSource_alike_of (compiler : Compiler σ) {state wider : CompileState σ}
    (h : WidensState env state wider) {specifier : String} {base base' : Option String}
    {context : Option Artifact}
    (hsource : ∀ counterpart, env.settings.convention.sourceCounterpart specifier = some counterpart →
      Alike (Widens env) (findIn env state.raw counterpart base context)
        (findIn env wider.raw counterpart base' context)) :
    Alike (WidensState env) (fromSource env compiler state specifier base context)
      (fromSource env compiler wider specifier base' context) := by
  unfold fromSource
  rcases hname : env.settings.convention.sourceCounterpart specifier with _ | counterpart
  · exact ⟨rfl, h⟩
  · obtain ⟨hanswer, hstate⟩ := hsource counterpart hname
    simp only
    rcases hx : findIn env state.raw counterpart base context with ⟨outcome, raw⟩
    rcases hy : findIn env wider.raw counterpart base' context with ⟨outcome', raw'⟩
    rw [hx, hy] at hanswer hstate
    obtain rfl : outcome = outcome' := hanswer
    rcases outcome with e | _ | found
    · exact ⟨rfl, h.withRaw hstate⟩
    · exact ⟨rfl, h.withRaw hstate⟩
    · exact compileOnce_alike compiler (h.withRaw hstate) found.artifact.uri specifier

theorem executableIn_alike_of (compiler : Compiler σ) {state wider : CompileState σ}
    (h : WidensState env state wider) {specifier : String} {base base' : Option String}
    {context : Option Artifact}
    (hfirst : Alike (Widens env) (findIn env state.raw specifier base context)
      (findIn env wider.raw specifier base' context))
    (hsource : ∀ counterpart, env.settings.convention.sourceCounterpart specifier = some counterpart →
      (findIn env state.raw specifier base context).1 = .ok none →
      Alike (Widens env)
        (findIn env (findIn env state.raw specifier base context).2 counterpart base context)
        (findIn env (findIn env wider.raw specifier base' context).2 counterpart base' context)) :
    Alike (WidensState env) (executableIn env compiler state specifier base context)
      (executableIn env compiler wider specifier base' context) := by
  unfold executableIn
  obtain ⟨hanswer, hstate⟩ := hfirst
  rcases hx : findIn env state.raw specifier base context with ⟨outcome, raw⟩
  rcases hy : findIn env wider.raw specifier base' context with ⟨outcome', raw'⟩
  rw [hx, hy] at hanswer hstate hsource
  obtain rfl : outcome = outcome' := hanswer
  rcases outcome with e | _ | found
  · exact ⟨rfl, h.withRaw hstate⟩
  · by_cases hkind : env.settings.convention.kindOf specifier = .compiled
    · simp only [hkind, if_pos]
      exact fromSource_alike_of compiler (h.withRaw hstate) fun counterpart hname =>
        hsource counterpart hname rfl
    · simp only [hkind, if_neg, not_false_eq_true]
      exact ⟨rfl, h.withRaw hstate⟩
  · exact ⟨rfl, h.withRaw hstate⟩

/-- **One request answers alike in states that differ in what a search would find anyway.** -/
theorem executableIn_alike (compiler : Compiler σ) {state wider : CompileState σ}
    (h : WidensState env state wider) (specifier : String) (base : Option String)
    (context : Option Artifact) :
    Alike (WidensState env) (executableIn env compiler state specifier base context)
      (executableIn env compiler wider specifier base context) := by
  have hfirst := findIn_alike h.raw specifier base context
  exact executableIn_alike_of compiler h hfirst fun counterpart _ _ =>
    findIn_alike hfirst.state counterpart base context

end ModuleLoader.OnDemand
