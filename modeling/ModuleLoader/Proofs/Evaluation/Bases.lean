/-
Identities that were handed out, as bases.

Loads and the requests of other callers make one session: a load looks for one module, and what
it runs loads others in turn.  So whatever a load hands out, at its end or to a module that runs
in it, has come up in a session that goes on (`loadAndRun_continues`), and as a base it is worth
what a session makes of it.

A module that was found is a base for good.  A module that was compiled is none: with its
identity for a base a reference means what it means without one.
-/
import ModuleLoader.Proofs.Compile.Session
import ModuleLoader.Proofs.Evaluation.Invariant
import ModuleLoader.Proofs.Evaluation.Steps

namespace ModuleLoader.Evaluation

open OnDemand (Session Reaches executableIn)

variable {σ : Type} {env : Environment} {host : Host σ} {past : List Outcome}

/-! ### Loads go on with a session -/

theorem confined_true (r : RuntimeRun σ) : r.Confined fun _ _ => True := by
  induction r with
  | finish _ _ => trivial
  | load _ _ _ next ih => exact ⟨trivial, fun host answer => ih host answer⟩

/-- The state is one that the session comes to when it goes on. -/
def Continues (env : Environment) (compiler : Compiler σ) (past : List Outcome)
    (state : Evaluation σ) : Prop :=
  ∃ more, Session env compiler (past ++ more) state.toCompileState

theorem Continues.of_session {state : Evaluation σ}
    (h : Session env host.compiler past state.toCompileState) :
    Continues env host.compiler past state := by
  refine ⟨[], ?_⟩
  rw [List.append_nil]
  exact h

/-- What the session has come to already is among what it comes to. -/
theorem Continues.hasCome {state : Evaluation σ} {outcome : Outcome}
    (h : Continues env host.compiler (past ++ [outcome]) state) :
    ∃ more, Session env host.compiler (past ++ more) state.toCompileState ∧ outcome ∈ more := by
  obtain ⟨more, hsession⟩ := h
  rw [List.append_assoc] at hsession
  exact ⟨_, hsession, List.mem_cons_self⟩

theorem Continues.resolve {state : Evaluation σ} (h : Continues env host.compiler past state)
    (specifier : String) (base : Option String) :
    Continues env host.compiler past (resolve env host state specifier base).2 := by
  obtain ⟨more, hsession⟩ := h
  have hasked := hsession.asked specifier base state.context?
  rw [List.append_assoc] at hasked
  exact ⟨_, hasked⟩

theorem invariant_continues (env : Environment) (host : Host σ) (past : List Outcome) :
    Invariant env host (fun _ _ => True) (Continues env host.compiler past) where
  resolved := fun h _ => h.resolve _ _
  pushed := fun h _ _ => h.resolve _ _
  confined := fun _ _ _ _ _ => confined_true _
  moved := by
    rintro state inner ⟨more, hsession⟩
    exact ⟨more, hsession.moved inner⟩
  left := by
    rintro state depth specifier found result ⟨more, hsession⟩
    refine ⟨more, ?_⟩
    rcases result with cause | _
    · exact hsession
    · exact hsession

/-- A run comes to the module that was run, or to an error. -/
theorem executeObserved_outcome {load : ObservedLoad σ} {runtime : Runtime σ} {state : Evaluation σ}
    {specifier : String} {found : Found} {outcome : Outcome} {after : Evaluation σ}
    (h : (executeObserved load runtime state specifier found).result = some (outcome, after)) :
    outcome = .ok (some found) ∨ ∃ e, outcome = .error e := by
  unfold executeObserved Observed.after Observed.andThen at h
  simp only at h
  rcases hr : (performObserved load (runtime (state.push found.artifact).host found.artifact
    (state.push found.artifact).stack) (state.push found.artifact)).result with _ | ⟨result, ended⟩
  · rw [hr] at h
    cases h
  · rw [hr] at h
    have hleft := congrArg Prod.fst (Option.some.inj h)
    rcases result with cause | _
    · exact Or.inr ⟨_, hleft.symm⟩
    · exact Or.inl hleft.symm

/-- **A load goes on with the session, and what it hands out has come up in it.** -/
theorem loadAndRun_continues {limit : Nat} {state after : Evaluation σ} {specifier : String}
    {base : Option String} {outcome : Outcome}
    (hsession : Session env host.compiler past state.toCompileState)
    (h : loadAndRun env host limit state specifier base = some (outcome, after)) :
    ∃ more, Session env host.compiler (past ++ more) after.toCompileState ∧
      ∀ found, outcome = .ok (some found) → outcome ∈ more := by
  -- The first thing that a load adds to the session is the outcome of its own search.
  have hresolved : Continues env host.compiler
      (past ++ [(resolve env host state specifier base).1]) (resolve env host state specifier base).2 :=
    .of_session (hsession.asked specifier base state.context?)
  rw [← observe_result] at h
  rcases hdue : due? env host specifier (resolve env host state specifier base)
    with _ | ⟨runtime, found⟩
  · rw [observe_idle hdue] at h
    obtain ⟨more, hmore, hmem⟩ := hresolved.hasCome
    have h : resolve env host state specifier base = (outcome, after) := Option.some.inj h
    rw [h] at hmore hmem
    exact ⟨more, hmore, fun _ _ => hmem⟩
  · obtain ⟨hfound, -⟩ := due?_eq_some_iff.mp hdue
    rcases limit with _ | limit
    · rw [observe_zero_due hdue] at h
      cases h
    · rw [observe_succ_due hdue] at h
      have inv := invariant_continues env host (past ++ [(resolve env host state specifier base).1])
      have hpushed : Continues env host.compiler
          (past ++ [(resolve env host state specifier base).1])
          ((resolve env host state specifier base).2.push found.artifact) := hresolved
      have hrun := execute_keeps inv (observe_keeps inv limit) specifier hpushed
        fun inner stack => confined_true (runtime inner found.artifact stack)
      obtain ⟨more, hmore, hmem⟩ := (hrun.result outcome after h).hasCome
      rw [hfound] at hmem
      refine ⟨more, hmore, ?_⟩
      intro other hother
      rcases executeObserved_outcome h with hsame | ⟨e, herror⟩
      · rwa [hsame]
      · rw [herror] at hother
        cases hother

theorem observe_continues {limit : Nat} {state : Evaluation σ} {specifier : String}
    {base : Option String} (hsession : Session env host.compiler past state.toCompileState) :
    ∀ m ∈ (observe env host limit state specifier base).history,
      ∃ more, Session env host.compiler (past ++ more) m.state.toCompileState :=
  (observe_keeps (invariant_continues env host past) limit state specifier base
    (.of_session hsession) trivial).history

/-! ### What is handed out, as a base -/

/-- What a relative reference comes to with the identity of a module for its base. -/
structure Anchors (env : Environment) (compiler : Compiler σ) (state : CompileState σ)
    (found : Found) (specifier : String) (context : Option Artifact) : Prop where
  /-- If the module was found as such: what the target of the reference comes to by itself; a
  target that is a URL may not come down to a source without a compiled counterpart. -/
  against : (∀ source, found.shelf ≠ some (.compiled source)) →
    ∃ target, Reference.resolve found.artifact.uri specifier = .ok target ∧
      ((Reference.isAbsolute target = true → ∀ source raw,
          Reaches ⟨env, target, none, none⟩ state.raw source raw →
          ∃ name, env.settings.convention.compiledCounterpart source = some name) →
        executableIn env compiler state specifier (some found.artifact.uri) context
          = executableIn env compiler state target none none)
  /-- If it was compiled from a source with a logical path: what the reference comes to without
  a base. -/
  unbased : ∀ source, found.shelf = some (.compiled source) →
    Reference.isAbsolute source = false →
    executableIn env compiler state specifier (some found.artifact.uri) context
      = executableIn env compiler state specifier none context

/-- **Of what is handed out, only what was found is a base.**  A session may consist of requests
and of loads, with whatever is loaded in them.  However it goes on, a module with a logical path
that was found is a base that relative references are resolved against, whatever is running.  A
module that was compiled is as good as no base: the reference is resolved against the running
module, or taken by its text. -/
theorem session_bases {env : Environment} (hendings : env.settings.convention.Endings)
    (compiler : Compiler σ) :
    (∀ past state, Session env compiler past state → ∀ found, .ok (some found) ∈ past →
      Reference.isAbsolute found.artifact.uri = false →
      ∀ specifier, Reference.isRelative specifier = true →
      ∀ context, Anchors env compiler state found specifier context) ∧
    (∀ (runtime : Option (Runtime σ)) limit (state : Evaluation σ) past specifier base,
      Session env compiler past state.toCompileState →
      (∀ m ∈ (observe env ⟨compiler, runtime⟩ limit state specifier base).history,
        ∃ more, Session env compiler (past ++ more) m.state.toCompileState) ∧
      ∀ outcome after,
        loadAndRun env ⟨compiler, runtime⟩ limit state specifier base = some (outcome, after) →
        ∃ more, Session env compiler (past ++ more) after.toCompileState ∧
          ∀ found, outcome = .ok (some found) → outcome ∈ more) := by
  refine ⟨?_, ?_⟩
  · intro past state hsession found hpast hlogical specifier hrel context
    have hsettled := hsession.settled hendings
    refine ⟨?_, ?_⟩
    · intro hshelf
      have hbase := hsettled.findAlone_of_found hpast hlogical hshelf
      have htarget := Reference.resolve_of_relative hlogical hrel
      exact ⟨_, htarget, OnDemand.executableIn_against hsettled.grounded hendings hrel context compiler
        hbase hlogical htarget⟩
    · intro source hshelf hsource
      have hbase := hsettled.findAlone_of_compiled hpast hlogical hshelf hsource
      exact OnDemand.executableIn_unbased hsettled.grounded hendings hrel context compiler hbase
  · intro runtime limit state past specifier base hsession
    refine ⟨observe_continues hsession, ?_⟩
    intro outcome after hload
    refine loadAndRun_continues ?_ hload
    exact hsession

/-! ### A base that was compiled -/

/-- An archive with a source, and two modules of one name, one of them next to the source. -/
def mixed : Environment :=
  { archive := .ofFiles [("lib/a.ts", "a"), ("lib/b.js", "b"), ("b.js", "root")] }

/-- A compiler that compiles a source to its name. -/
def naming : Compiler Unit := fun host source => .finish host (.ok source)

/-- The source, compiled. -/
def mixedMade : Found := ⟨⟨"lib/a.js", "lib/a.ts"⟩, some (.compiled "lib/a.ts")⟩

/-- The module next to it. -/
def mixedFound : Found := ⟨⟨"lib/b.js", "b"⟩, some (.raw "lib/b.js")⟩

/-- What is known when the source has been compiled. -/
def mixedCompiled : CompileState Unit :=
  { raw := ⟨[("lib/a.ts", ⟨"lib/a.ts", "a"⟩)]⟩,
    slots := [("lib/a.ts", some mixedMade.artifact)], host := () }

/-- What is known when the other module has been found as well. -/
def mixedKnown : CompileState Unit :=
  { mixedCompiled with
    raw := ⟨[("lib/a.ts", ⟨"lib/a.ts", "a"⟩), ("lib/b.js", mixedFound.artifact)]⟩ }

theorem search_mixed : Search.search mixed "lib/a.js" = .ok none :=
  Search.search_absent (by rfl) rfl (by decide)

theorem executableIn_mixed :
    executableIn mixed naming { host := () } "lib/a.js" none none =
      (.ok (some mixedMade), mixedCompiled) := by
  have hmiss : Search.findIn mixed {} "lib/a.js" none none = (.ok none, {}) := by
    rw [Search.findIn_of_fresh rfl (by decide), search_mixed]
    rfl
  rw [OnDemand.executableIn_of_unfound naming { host := () } hmiss]
  rfl

theorem session_mixed :
    Session mixed naming [.ok (some mixedMade), .ok (some mixedFound)] mixedKnown := by
  have hstart : Session mixed naming [] { host := () } := .start ()
  have hfirst := hstart.asked "lib/a.js" none none
  rw [executableIn_mixed] at hfirst
  exact hfirst.asked "lib/b.js" none none

/-- The module that was found is a base in a running module; the one that was compiled is none. -/
theorem session_bases_mixed :
    let running : Option Artifact := some ⟨"app/main.js", "main"⟩
    executableIn mixed naming mixedKnown "./b.js" (some "lib/b.js") running
      = executableIn mixed naming mixedKnown "lib/b.js" none none ∧
    executableIn mixed naming mixedKnown "./b.js" (some "lib/a.js") running
      = executableIn mixed naming mixedKnown "./b.js" none running := by
  intro running
  have hendings : mixed.settings.convention.Endings := by decide
  have hbases := (session_bases hendings naming).1 _ _ session_mixed
  refine ⟨?_, ?_⟩
  · obtain ⟨target, htarget, heq⟩ :=
      (hbases mixedFound (by simp) (by decide) "./b.js" (by decide) running).against
        (by intro source hshelf; cases hshelf)
    have hneighbour : Reference.resolve "lib/b.js" "./b.js" = .ok "lib/b.js" := by rfl
    obtain rfl := Except.ok.inj (hneighbour.symm.trans htarget)
    exact heq fun habs => absurd habs (by decide)
  · exact (hbases mixedMade (by simp) (by decide) "./b.js" (by decide) running).unbased "lib/a.ts"
      rfl (by decide)

/-- The compiled module is handed out, and then a reference to its neighbour with its identity
for a base is answered by the module at the root. -/
theorem executableIn_not_against :
    ¬ ∀ past state, Session mixed naming past state → ∀ found, .ok (some found) ∈ past →
      Reference.isAbsolute found.artifact.uri = false →
      ∀ specifier, Reference.isRelative specifier = true →
      ∀ context target, Reference.resolve found.artifact.uri specifier = .ok target →
        (executableIn mixed naming state specifier (some found.artifact.uri) context).1
          = (executableIn mixed naming state target none none).1 := by
  intro hall
  have heq := hall _ _ session_mixed mixedMade (by simp) (by decide) "./b.js" (by decide) none
    "lib/b.js" (by rfl)
  have hbase : Search.findAlone mixed mixedKnown.raw "lib/a.js" = (.ok none, mixedKnown.raw) :=
    Search.findAlone_of_absent (by rfl) (by decide) search_mixed
  have hroot : (executableIn mixed naming mixedKnown "./b.js" (some mixedMade.artifact.uri) none).1
      = .ok (some ⟨⟨"./b.js", "root"⟩, none⟩) := by
    show (executableIn mixed naming mixedKnown "./b.js" (some "lib/a.js") none).1 = _
    unfold OnDemand.executableIn
    rw [Search.findIn_of_based (by rfl) (by decide), hbase]
    rfl
  have hneighbour : (executableIn mixed naming mixedKnown "lib/b.js" none none).1
      = .ok (some mixedFound) := by rfl
  rw [hroot, hneighbour] at heq
  simp [mixedFound] at heq

end ModuleLoader.Evaluation
