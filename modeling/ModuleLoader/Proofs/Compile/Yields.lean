/-
What requests hand out and keep.

A request hands out what one of its searches finds, or what a source is compiled to.  A
compiler is confined if it asks only questions of one kind and comes only to texts of one
kind.  So where searches of that kind hand out nothing but artifacts with some property, and
the texts make artifacts with some property, every request keeps to them
(`executableIn_yields`).
-/
import ModuleLoader.Proofs.Search.Yields
import ModuleLoader.Compile.OnDemand

namespace ModuleLoader

variable {σ : Type}

/-- The run asks only such questions and comes only to such texts. -/
def CompilerRun.Confined (W : String → Option String → Prop) (T : String → Prop) :
    CompilerRun σ → Prop
  | .finish _ result => ∀ text, result = .ok text → T text
  | .ask specifier base next => W specifier base ∧ ∀ answer, (next answer).Confined W T

theorem CompilerRun.Confined.mono {W W' : String → Option String → Prop} {T T' : String → Prop}
    (hask : ∀ specifier base, W specifier base → W' specifier base)
    (htext : ∀ text, T text → T' text) {r : CompilerRun σ} : r.Confined W T → r.Confined W' T' := by
  induction r with
  | finish state result =>
      intro h text hresult
      exact htext text (h text hresult)
  | ask specifier base next ih =>
      rintro ⟨h, hnext⟩
      exact ⟨hask specifier base h, fun answer => ih answer (hnext answer)⟩

/-- What was found has one property, and what was compiled another. -/
structure CompileState.All (P Q : Artifact → Prop) (state : CompileState σ) : Prop where
  raw : state.raw.All P
  slots : ∀ slot ∈ state.slots, ∀ artifact ∈ slot.2, Q artifact

theorem CompileState.All.withRaw {P Q : Artifact → Prop} {state : CompileState σ}
    (h : state.All P Q) {raw : RawCache} (hraw : raw.All P) :
    CompileState.All P Q { state with raw := raw } := ⟨hraw, h.slots⟩

namespace OnDemand

open Search

variable {env : Environment} {P Q : Artifact → Prop} {T : String → Prop}

theorem run_yields {r : CompilerRun σ}
    (hr : r.Confined (fun specifier base => Stays env P specifier base none) T) :
    ∀ {cache : RawCache}, cache.All P →
      (run env r cache).2.All P ∧ ∀ text, (run env r cache).1.1 = .ok text → T text := by
  induction r with
  | finish state result => intro cache hcache; exact ⟨hcache, hr⟩
  | ask specifier base next ih =>
      intro cache hcache
      obtain ⟨hask, hnext⟩ := hr
      have hkept := (hask cache hcache).cache
      unfold run
      exact ih _ (hnext _) hkept

theorem mem_setSlot {source : String} {value : Option Artifact}
    {slot : String × Option Artifact} :
    ∀ {slots : List (String × Option Artifact)}, slot ∈ setSlot source value slots →
      slot.2 = value ∨ slot ∈ slots := by
  intro slots
  induction slots with
  | nil =>
      intro h
      rw [List.mem_singleton.mp h]
      exact Or.inl rfl
  | cons first rest ih =>
      intro h
      unfold setSlot at h
      by_cases hs : first.1 = source
      · rw [if_pos hs] at h
        rcases List.mem_cons.mp h with rfl | h
        · exact Or.inl rfl
        · exact Or.inr (List.mem_cons_of_mem _ h)
      · rw [if_neg hs] at h
        rcases List.mem_cons.mp h with rfl | h
        · exact Or.inr List.mem_cons_self
        · exact (ih h).imp_right (List.mem_cons_of_mem _)

theorem compiled?_of_all {state : CompileState σ} (h : state.All P Q) {source : String}
    {artifact : Artifact} (hslot : compiled? state source = some artifact) : Q artifact :=
  h.slots (source, some artifact) (mem_of_lookup (Option.join_eq_some_iff.mp hslot)) artifact rfl

/-- A slot may be written with what has the property. -/
theorem setSlot_of_all {state : CompileState σ} (h : state.All P Q) (source : String)
    {value : Option Artifact} (hvalue : ∀ artifact ∈ value, Q artifact) :
    ∀ slot ∈ setSlot source value state.slots, ∀ artifact ∈ slot.2, Q artifact := by
  intro slot hslot
  rcases mem_setSlot hslot with heq | hold
  · rw [heq]
    exact hvalue
  · exact h.slots slot hold

/-- What is handed out has the second property, and the state keeps to both. -/
structure YieldsState (P Q : Artifact → Prop) (x : Outcome × CompileState σ) : Prop where
  answer : ∀ found, x.1 = .ok (some found) → Q found.artifact
  state : x.2.All P Q

/-- Whatever the source is compiled to has the property. -/
def Compiles (env : Environment) (compiler : Compiler σ) (P Q : Artifact → Prop)
    (source requested : String) : Prop :=
  ∀ inner, (compiler inner source).Confined (fun specifier base => Stays env P specifier base none)
    fun text => Q ⟨(env.settings.convention.compiledCounterpart source).getD requested, text⟩

variable {compiler : Compiler σ} {state : CompileState σ}

theorem YieldsState.error (h : state.All P Q) (e : LoadError) :
    YieldsState P Q (.error e, state) := ⟨nofun, h⟩

theorem YieldsState.nothing (h : state.All P Q) : YieldsState P Q (.ok none, state) := by
  refine ⟨?_, h⟩
  intro found hfound
  cases hfound

theorem YieldsState.found (h : state.All P Q) {found : Found} (hfound : Q found.artifact) :
    YieldsState P Q (.ok (some found), state) := by
  refine ⟨?_, h⟩
  intro other hother
  cases hother
  exact hfound

theorem compile_yields (h : state.All P Q) {source requested : String}
    (hcompiles : Compiles env compiler P Q source requested) :
    YieldsState P Q (compile env compiler state source requested) := by
  obtain ⟨hkept, htext⟩ := run_yields (hcompiles state.host) h.raw
  unfold compile
  rcases hrun : run env (compiler state.host source) state.raw with ⟨⟨result, host⟩, raw⟩
  rw [hrun] at hkept htext
  rcases result with e | output
  · have hold : ∀ artifact ∈ compiled? state source, Q artifact :=
      fun artifact hartifact => compiled?_of_all h hartifact
    exact .error ⟨hkept, setSlot_of_all h source hold⟩ _
  · have hnew := htext output rfl
    refine .found ⟨hkept, setSlot_of_all h source ?_⟩ hnew
    intro artifact hartifact
    cases hartifact
    exact hnew

theorem compileOnce_yields (h : state.All P Q) {source requested : String}
    (hcompiles : Compiles env compiler P Q source requested) :
    YieldsState P Q (compileOnce env compiler state source requested) := by
  unfold compileOnce
  rcases hslot : compiled? state source with _ | artifact
  · exact compile_yields h hcompiles
  · exact .found h (compiled?_of_all h hslot)

theorem fromSource_yields (h : state.All P Q) {specifier : String} {base : Option String}
    {context : Option Artifact}
    (hsource : ∀ counterpart ∈ env.settings.convention.sourceCounterpart specifier,
      Stays env P counterpart base context)
    (hcompiles : ∀ source, P source → Compiles env compiler P Q source.uri specifier) :
    YieldsState P Q (fromSource env compiler state specifier base context) := by
  unfold fromSource
  rcases hname : env.settings.convention.sourceCounterpart specifier with _ | counterpart
  · exact .nothing h
  · obtain ⟨hanswer, hkept⟩ := hsource counterpart hname state.raw h.raw
    simp only
    rcases hfind : findIn env state.raw counterpart base context with ⟨e | _ | source, raw⟩
    · rw [hfind] at hkept
      exact .error (h.withRaw hkept) e
    · rw [hfind] at hkept
      exact .nothing (h.withRaw hkept)
    · rw [hfind] at hanswer hkept
      exact compileOnce_yields (h.withRaw hkept) (hcompiles _ (hanswer source rfl))

/-- **A request hands out and keeps only what its searches and its compiler may give.** -/
theorem executableIn_yields (hle : ∀ artifact, P artifact → Q artifact) (h : state.All P Q)
    {specifier : String} {base : Option String} {context : Option Artifact}
    (hspecifier : Stays env P specifier base context)
    (hsource : ∀ counterpart ∈ env.settings.convention.sourceCounterpart specifier,
      Stays env P counterpart base context)
    (hcompiles : ∀ source, P source → Compiles env compiler P Q source.uri specifier) :
    YieldsState P Q (executableIn env compiler state specifier base context) := by
  obtain ⟨hanswer, hkept⟩ := hspecifier state.raw h.raw
  unfold executableIn
  rcases hfind : findIn env state.raw specifier base context with ⟨e | _ | found, raw⟩
  · rw [hfind] at hkept
    exact .error (h.withRaw hkept) e
  · rw [hfind] at hkept
    by_cases hkind : env.settings.convention.kindOf specifier = .compiled
    · simp only [hkind, if_pos]
      exact fromSource_yields (h.withRaw hkept) hsource hcompiles
    · simp only [hkind, if_neg, not_false_eq_true]
      exact .nothing (h.withRaw hkept)
  · rw [hfind] at hanswer hkept
    exact .found (h.withRaw hkept) (hle _ (hanswer found rfl))

end OnDemand

end ModuleLoader
