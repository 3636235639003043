/-
Compiling a source by itself.

A compiler is reproducible if its answer depends on the name of the source and on what its
questions are answered, and on nothing else; in particular not on what the host has seen of
other sources.  The host may still change, and the questions may depend on it.

Questions are answered as on an empty cache as long as the cache recalls, and they leave one
that does (`find_asFresh`).  So a reproducible compiler comes to the same answer on every such
cache, whatever was found or compiled before (`run_eq_alone`).
-/
import ModuleLoader.Compile.OnDemand
import ModuleLoader.Proofs.Search.History

namespace ModuleLoader

variable {σ : Type}

/-- What a run comes to if its questions are answered like this. -/
def CompilerRun.answeredBy (answers : String → Option String → Outcome) :
    CompilerRun σ → Except CompilationError String
  | .finish _ result => result
  | .ask specifier base next => (next (answers specifier base)).answeredBy answers

/-- The answer depends on the name of the source and on the answers to questions only. -/
def Compiler.Reproducible (compiler : Compiler σ) : Prop :=
  ∀ answers source host host',
    (compiler host source).answeredBy answers = (compiler host' source).answeredBy answers

namespace Search

/-- On a cache that recalls, a question is answered as on an empty one. -/
theorem find_asFresh {env : Environment} {cache : RawCache} (h : Recalls env cache)
    (specifier : String) (base : Option String) :
    AsFresh env (find env {} specifier base) (find env cache specifier base) :=
  @serve_asFresh env cache h ⟨env, specifier, base, none⟩ rfl (by simp)

/-- A file of the archive is found by its path when nothing was asked before. -/
theorem find_of_file {env : Environment} {name text : String}
    (h : env.archive.findFile name = some text) :
    ∃ shelf, (find env {} name none).1 = .ok (some ⟨⟨name, text⟩, shelf⟩) := by
  have hsearch : search env name = .ok (some ⟨name, text⟩) := by
    unfold search
    rw [h]
  unfold find
  by_cases hrel : Reference.isRelative name = true
  · rw [findIn_of_unbased rfl hrel]
    exact ⟨none, by simp [findUnbased, hsearch, passing, Except.map]⟩
  · rw [findIn_of_fresh rfl (Bool.eq_false_iff.mpr hrel), hsearch]
    exact ⟨some (.raw name), rfl⟩

end Search

namespace OnDemand

open Search

variable {env : Environment} {compiler : Compiler σ}

/-- What a source comes to if it is compiled before anything was found. -/
def alone (env : Environment) (compiler : Compiler σ) (host : σ) (source : String) :
    Except CompilationError String :=
  (run env (compiler host source) {}).1.1

theorem run_of_recalls (r : CompilerRun σ) :
    ∀ {cache : RawCache}, Recalls env cache →
      (run env r cache).1.1 = r.answeredBy (fun specifier base => (find env {} specifier base).1) ∧
        Recalls env (run env r cache).2 := by
  induction r with
  | finish state result => intro cache h; exact ⟨rfl, h⟩
  | ask specifier base next ih =>
      intro cache h
      obtain ⟨hanswer, hrecalls⟩ := find_asFresh h specifier base
      have hnext := ih (find env cache specifier base).1 hrecalls
      refine ⟨hnext.1.trans ?_, hnext.2⟩
      rw [hanswer]
      rfl

/-- **A reproducible compiler comes to the same on every cache that recalls**, in every state of
the host. -/
theorem run_eq_alone (hcompiler : compiler.Reproducible) {cache : RawCache}
    (h : Recalls env cache) (host host' : σ) (source : String) :
    (run env (compiler host source) cache).1.1 = alone env compiler host' source := by
  have hcache := (run_of_recalls (compiler host source) h).1
  have hempty := (run_of_recalls (compiler host' source) (recalls_empty env)).1
  rw [hcache, hcompiler _ source host host']
  exact hempty.symm

/-- A source that has not been compiled is compiled to what it comes to by itself. -/
theorem compileOnce_of_alone (hcompiler : compiler.Reproducible) (state : CompileState σ)
    (h : Recalls env state.raw) {source : String} (hslot : compiled? state source = none)
    (host : σ) {text : String} (halone : alone env compiler host source = .ok text)
    (requested : String) :
    (compileOnce env compiler state source requested).1 =
      .ok (some ⟨⟨(env.settings.convention.compiledCounterpart source).getD requested, text⟩,
        some (.compiled source)⟩) := by
  have hrun := run_eq_alone hcompiler h state.host host source
  unfold compileOnce compile
  rw [hslot]
  rcases hx : run env (compiler state.host source) state.raw with ⟨⟨result, after⟩, raw⟩
  rw [hx, halone] at hrun
  obtain rfl : result = .ok text := hrun
  simp only

end OnDemand

end ModuleLoader
