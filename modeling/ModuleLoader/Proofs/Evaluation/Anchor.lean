/-
References in a running module and references against it.

A load finds its module, compiles it if need be, and runs it.  What is found first depends
on where a reference is anchored, and everything after that is the same program on states
that differ at most in what is held of modules that a search would find anyway.  Such states
are told apart by no run (`loadAndRun_alike`): not by the outcome, not by the limit it takes.
-/
import ModuleLoader.Proofs.Compile.Cache
import ModuleLoader.Proofs.Compile.Shelves
import ModuleLoader.Proofs.Search.Anchor
import ModuleLoader.Proofs.Search.Plain
import ModuleLoader.Proofs.Evaluation.Steps

namespace ModuleLoader.Evaluation

open Search OnDemand

variable {σ : Type} {env : Environment} {host : Host σ}

/-! ### States that no run tells apart -/

/-- The second state has a cache that holds more, and is the same otherwise. -/
structure WidensEvaluation (env : Environment) (state wider : Evaluation σ) : Prop where
  compile : WidensState env state.toCompileState wider.toCompileState
  evaluated : wider.evaluated = state.evaluated
  stack : wider.stack = state.stack

/-- Two runs both have no end, or both end, alike. -/
abbrev AlikeRuns {α : Type} (env : Environment) :
    Option (α × Evaluation σ) → Option (α × Evaluation σ) → Prop :=
  Option.Rel (Alike (WidensEvaluation env))

namespace WidensEvaluation

variable {state wider : Evaluation σ}

theorem refl (env : Environment) (state : Evaluation σ) : WidensEvaluation env state state :=
  ⟨⟨.refl env _, rfl, rfl⟩, rfl, rfl⟩

theorem host_eq (h : WidensEvaluation env state wider) : wider.host = state.host := h.compile.host

theorem withHost (h : WidensEvaluation env state wider) (last : σ) :
    WidensEvaluation env { state with host := last } { wider with host := last } :=
  ⟨⟨h.compile.raw, h.compile.slots, rfl⟩, h.evaluated, h.stack⟩

theorem push (h : WidensEvaluation env state wider) (artifact : Artifact) :
    WidensEvaluation env (state.push artifact) (wider.push artifact) :=
  ⟨h.compile, h.evaluated, congrArg (artifact :: ·) h.stack⟩

theorem leave (h : WidensEvaluation env state wider) (depth : Nat) (specifier : String)
    (found : Found) (result : Except String Unit) :
    Alike (WidensEvaluation env) (leave depth specifier found result state)
      (leave depth specifier found result wider) := by
  have hstack : wider.stack.drop (wider.stack.length - depth)
      = state.stack.drop (state.stack.length - depth) := by rw [h.stack]
  rcases result with cause | _
  · exact ⟨rfl, h.compile, h.evaluated, hstack⟩
  · refine ⟨rfl, h.compile, ?_, hstack⟩
    show wider.evaluated.insert found.artifact.uri = state.evaluated.insert found.artifact.uri
    rw [h.evaluated]

theorem resolve (h : WidensEvaluation env state wider) {specifier : String}
    {base base' : Option String}
    (hexecutable : Alike (WidensState env)
      (executableIn env host.compiler state.toCompileState specifier base state.context?)
      (executableIn env host.compiler wider.toCompileState specifier base' state.context?)) :
    Alike (WidensEvaluation env) (resolve env host state specifier base)
      (Evaluation.resolve env host wider specifier base') := by
  have hcontext : wider.context? = state.context? := by
    unfold context?
    rw [h.stack]
  unfold Evaluation.resolve
  rw [hcontext]
  exact ⟨hexecutable.answer, hexecutable.state, h.evaluated, h.stack⟩

end WidensEvaluation

theorem due?_alike {specifier : String} {x y : Outcome × Evaluation σ}
    (h : Alike (WidensEvaluation env) x y) :
    due? env host specifier y = due? env host specifier x := by
  obtain ⟨outcome, state⟩ := x
  obtain ⟨outcome', wider⟩ := y
  obtain ⟨hanswer, hstate⟩ := h
  obtain rfl : outcome = outcome' := hanswer
  rcases outcome with e | _ | found
  · rfl
  · rfl
  · have hdue : isDue env wider specifier found = isDue env state specifier found := by
      unfold isDue isEvaluated isRunning
      rw [show wider.evaluated = state.evaluated from hstate.evaluated,
        show wider.stack = state.stack from hstate.stack]
    unfold due?
    simp only [hdue]

theorem perform_alike {load : Load σ}
    (hload : ∀ state wider, WidensEvaluation env state wider → ∀ specifier base,
      AlikeRuns env (load state specifier base) (load wider specifier base))
    (r : RuntimeRun σ) : ∀ {state wider : Evaluation σ}, WidensEvaluation env state wider →
      AlikeRuns env (perform load r state) (perform load r wider) := by
  induction r with
  | finish last result =>
      intro state wider h
      exact .some ⟨rfl, h.withHost last⟩
  | load last specifier base next ih =>
      intro state wider h
      have hrel := hload _ _ (h.withHost last) specifier base
      unfold perform
      rcases hx : load { state with host := last } specifier base with _ | ⟨answer, after⟩ <;>
        rcases hy : load { wider with host := last } specifier base with _ | ⟨answer', after'⟩ <;>
        rw [hx, hy] at hrel
      · exact .none
      · cases hrel
      · cases hrel
      · obtain ⟨hanswer, hstate⟩ : Alike (WidensEvaluation env) _ _ := by
          cases hrel with
          | some halike => exact halike
        obtain rfl : answer = answer' := hanswer
        simp only
        rw [show after'.host = after.host from hstate.host_eq]
        exact ih after.host answer hstate

theorem AlikeRuns.map {α β : Type} {x y : Option (α × Evaluation σ)} (h : AlikeRuns env x y)
    {f g : α × Evaluation σ → β × Evaluation σ}
    (hfg : ∀ a state wider, WidensEvaluation env state wider →
      Alike (WidensEvaluation env) (f (a, state)) (g (a, wider))) :
    AlikeRuns env (x.map f) (y.map g) := by
  cases h with
  | none => exact .none
  | @some x y halike =>
      obtain ⟨a, state⟩ := x
      obtain ⟨b, wider⟩ := y
      obtain ⟨hanswer, hstate⟩ := halike
      obtain rfl : a = b := hanswer
      exact .some (hfg a state wider hstate)

theorem execute_alike {load : Load σ}
    (hload : ∀ state wider, WidensEvaluation env state wider → ∀ specifier base,
      AlikeRuns env (load state specifier base) (load wider specifier base))
    (runtime : Runtime σ) {state wider : Evaluation σ} (h : WidensEvaluation env state wider)
    (specifier : String) (found : Found) :
    AlikeRuns env (execute load runtime state specifier found)
      (execute load runtime wider specifier found) := by
  have hpush := h.push found.artifact
  have hdepth : wider.depth = state.depth := by
    unfold depth
    rw [h.stack]
  unfold execute
  simp only
  rw [hpush.host_eq, hpush.stack, hdepth]
  refine (perform_alike hload _ hpush).map ?_
  intro result ended ended' hended
  exact hended.leave state.depth specifier found result

/-- What is found alike is run alike. -/
theorem loadAndRun_alike_of {limit : Nat} {state wider : Evaluation σ} {specifier : String}
    {base base' : Option String}
    (hresolve : Alike (WidensEvaluation env) (resolve env host state specifier base)
      (resolve env host wider specifier base'))
    (hload : ∀ room, room < limit → ∀ state wider, WidensEvaluation env state wider →
      ∀ specifier base, AlikeRuns env (loadAndRun env host room state specifier base)
        (loadAndRun env host room wider specifier base)) :
    AlikeRuns env (loadAndRun env host limit state specifier base)
      (loadAndRun env host limit wider specifier base') := by
  have hdue : due? env host specifier (resolve env host wider specifier base')
      = due? env host specifier (resolve env host state specifier base) := due?_alike hresolve
  rcases h : due? env host specifier (resolve env host state specifier base)
    with _ | ⟨runtime, found⟩
  · rw [loadAndRun_idle h, loadAndRun_idle (hdue.trans h)]
    exact .some hresolve
  · cases limit with
    | zero =>
        rw [loadAndRun_zero_due h, loadAndRun_zero_due (hdue.trans h)]
        exact .none
    | succ limit =>
        rw [loadAndRun_succ_due h, loadAndRun_succ_due (hdue.trans h)]
        exact execute_alike (hload limit (Nat.lt_succ_self limit)) runtime hresolve.state specifier
          found

/-- **States that differ in what a search would find anyway are told apart by no load.** -/
theorem loadAndRun_alike (env : Environment) (host : Host σ) :
    ∀ (limit : Nat) (state wider : Evaluation σ), WidensEvaluation env state wider →
      ∀ specifier base, AlikeRuns env (loadAndRun env host limit state specifier base)
        (loadAndRun env host limit wider specifier base) := by
  intro limit
  induction limit using Nat.strongRecOn with
  | _ limit ih =>
      intro state wider h specifier base
      exact loadAndRun_alike_of (h.resolve (executableIn_alike host.compiler h.compile _ _ _)) ih

/-! ### Anchored references load alike -/

/-- The searches that a load of a reference in the running module makes, for the module and if
need be for its source, are anchored; and the identity of the running module opens to no other. -/
structure AnchoredLoad (env : Environment) (cache : RawCache) (running : Artifact)
    (specifier : String) : Prop where
  reference : Anchored env cache running specifier
  source : (findIn env cache specifier none (some running)).1 = .ok none →
    ∀ counterpart, env.settings.convention.sourceCounterpart specifier = some counterpart →
      Reference.isRelative counterpart = true → Anchored env cache running counterpart
  identity : Reference.isAbsolute running.uri = true →
    ∀ other, openDirectly env running.uri = .ok (some other) → other = running

section Running

variable {state : Evaluation σ} {running : Found} {rest : List Artifact} {specifier : String}

theorem context?_of_stack {top : Artifact} (htop : state.stack = top :: rest) :
    state.context? = some top := by
  unfold context?
  rw [htop]
  rfl

theorem resolve_anchored (htop : state.stack = running.artifact :: rest)
    (hrunning : (find env state.raw running.artifact.uri none).1 = .ok (some running))
    (hanchored : AnchoredLoad env state.raw running.artifact specifier) :
    Alike (WidensEvaluation env) (resolve env host state specifier none)
      (resolve env host state specifier (some running.artifact.uri)) := by
  have hwidens := widens_running hrunning hanchored.identity
  have hfirst := findIn_anchored hrunning hwidens fun _ => hanchored.reference
  refine (WidensEvaluation.refl env state).resolve ?_
  rw [context?_of_stack htop]
  refine executableIn_alike_of host.compiler ⟨.refl env _, rfl, rfl⟩ hfirst ?_
  intro counterpart hname hnone
  have hwider := hfirst.state
  rw [findIn_none_snd hnone] at hwider ⊢
  have hsource := findIn_anchored hrunning hwidens (hanchored.source hnone counterpart hname)
  exact hsource.trans Widens.trans (findIn_alike hwider counterpart _ _)

/-- The outcomes of two runs that are alike. -/
theorem AlikeRuns.outcome {α : Type} {x y : Option (α × Evaluation σ)} (h : AlikeRuns env x y) :
    x.map Prod.fst = y.map Prod.fst := by
  cases h with
  | none => rfl
  | some halike => exact congrArg some halike.answer

/-- What comes of a source is kept as compiled. -/
theorem fromSource_shelf {compiler : Compiler σ} {compile : CompileState σ} {base : Option String}
    {context : Option Artifact} (artifact : Artifact) :
    (fromSource env compiler compile specifier base context).1 ≠ .ok (some ⟨artifact, none⟩) := by
  have hcompile : ∀ (before : CompileState σ) (source : String),
      (compileOnce env compiler before source specifier).1 ≠ .ok (some ⟨artifact, none⟩) := by
    intro before source
    unfold compileOnce OnDemand.compile
    rcases compiled? before source with _ | old
    · rcases run env (compiler before.host source) before.raw with ⟨⟨e | output, last⟩, raw⟩ <;>
        simp
    · simp
  unfold fromSource
  rcases env.settings.convention.sourceCounterpart specifier with _ | counterpart
  · simp
  · simp only
    rcases findIn env compile.raw counterpart base context with ⟨e | _ | source, raw⟩
    · simp
    · simp
    · exact hcompile _ _

theorem resolve_of_found {base : Option String} {found : Found}
    (h : (findIn env state.raw specifier base state.context?).1 = .ok (some found)) :
    (resolve env host state specifier base).1 = .ok (some found) := by
  show (executableIn env host.compiler state.toCompileState specifier base state.context?).1 = _
  unfold executableIn
  rcases hx : findIn env state.raw specifier base state.context? with ⟨outcome, raw⟩
  rw [hx] at h
  obtain rfl : outcome = .ok (some found) := h
  rfl

/-- What is not found as such is at most found as a source. -/
theorem resolve_of_unfound {base : Option String}
    (h : (findIn env state.raw specifier base state.context?).1 = .ok none) (artifact : Artifact) :
    (resolve env host state specifier base).1 ≠ .ok (some ⟨artifact, none⟩) := by
  show (executableIn env host.compiler state.toCompileState specifier base state.context?).1 ≠ _
  rw [executableIn_of_unfound host.compiler state.toCompileState (Prod.ext h rfl)]
  exact fromSource_shelf artifact

/-- Where the text of a reference finds a module that the reference does not mean, the running
module is given that module, and a base that names the running module never gives it. -/
theorem resolve_unanchored {target : String} {artifact : Artifact}
    (htop : state.stack = running.artifact :: rest)
    (hrunning : (find env state.raw running.artifact.uri none).1 = .ok (some running))
    (hrelative : Reference.isRelative specifier = true)
    (hnone : state.raw.get? specifier = none)
    (htarget : Reference.resolve running.artifact.uri specifier = .ok target)
    (hpath : Reference.isAbsolute target ≠ true)
    (habsent : (findAlone env state.raw target).1 = .ok none)
    (hfound : search env specifier = .ok (some artifact)) :
    (resolve env host state specifier none).1 = .ok (some ⟨artifact, none⟩) ∧
      (resolve env host state specifier (some running.artifact.uri)).1
        ≠ .ok (some ⟨artifact, none⟩) := by
  refine ⟨resolve_of_found ?_, resolve_of_unfound ?_ artifact⟩
  · rw [context?_of_stack htop, findIn_of_unbased hnone hrelative, findUnbased_some,
      findInContext_of_path htarget hpath, habsent]
    show passing (search env specifier) = _
    rw [hfound]
    rfl
  · rw [findIn_of_running hrunning hnone hrelative, findAgainst_of_target htarget, findAlone_again]
    exact habsent

/-- **The running module anchors a reference as a base does that names it, if and only if the
search for it is anchored.**  If the searches that a load can make are anchored, the load has
the same outcome as well, whatever the module does that is found.  If they are not, because the
text of the reference finds a module by itself, then that module is what is found. -/
theorem load_anchored (env : Environment) (host : Host σ) (state : Evaluation σ)
    (htop : state.stack = running.artifact :: rest)
    (hrunning : (find env state.raw running.artifact.uri none).1 = .ok (some running))
    (hrelative : Reference.isRelative specifier = true) :
    ((findIn env state.raw specifier none state.context?).1 =
        (findIn env state.raw specifier (some running.artifact.uri) state.context?).1
      ↔ (state.raw.get? specifier = none → Anchored env state.raw running.artifact specifier)) ∧
    (AnchoredLoad env state.raw running.artifact specifier → ∀ limit,
      (loadAndRun env host limit state specifier none).map Prod.fst =
        (loadAndRun env host limit state specifier (some running.artifact.uri)).map Prod.fst) ∧
    (∀ target artifact, state.raw.get? specifier = none →
      Reference.resolve running.artifact.uri specifier = .ok target →
      Reference.isAbsolute target ≠ true → (findAlone env state.raw target).1 = .ok none →
      search env specifier = .ok (some artifact) →
      (resolve env host state specifier none).1 = .ok (some ⟨artifact, none⟩) ∧
        (resolve env host state specifier (some running.artifact.uri)).1
          ≠ .ok (some ⟨artifact, none⟩)) := by
  refine ⟨?_, ?_, ?_⟩
  · rw [context?_of_stack htop]
    rcases hheld : state.raw.get? specifier with _ | artifact
    · rw [findIn_anchored_iff hrunning hheld hrelative]
      exact ⟨fun h _ => h, fun h => h rfl⟩
    · rw [findIn_of_held hheld, findIn_of_held hheld]
      refine ⟨?_, fun _ => rfl⟩
      intro _ hnone
      cases hnone
  · intro hanchored limit
    have hresolve : Alike (WidensEvaluation env) (resolve env host state specifier none)
        (resolve env host state specifier (some running.artifact.uri)) :=
      resolve_anchored htop hrunning hanchored
    exact (loadAndRun_alike_of hresolve fun room _ => loadAndRun_alike env host room).outcome
  · intro target artifact hnone htarget hpath habsent hfound
    exact resolve_unanchored htop hrunning hrelative hnone htarget hpath habsent hfound

end Running

/-- An archive in which `x.js` lies next to `lib/main.js` and at the root. -/
def neighbours : Environment :=
  { archive := .ofFiles [("lib/main.js", "main"), ("lib/x.js", "x"), ("x.js", "root")] }

/-- A host whose modules and compilers do nothing. -/
def idleHost : Host Unit :=
  ⟨fun state name => .finish state (.ok name), some fun state _ _ => .finish state (.ok ())⟩

/-- The module `lib/main.js` of that archive. -/
def neighboursMain : Found := ⟨⟨"lib/main.js", "main"⟩, some (.raw "lib/main.js")⟩

/-- A state in which it is running. -/
def mainRunning : Evaluation Unit := { host := (), stack := [neighboursMain.artifact] }

/-- A module that lies next to the running one is anchored. -/
theorem load_anchored_neighbour :
    AnchoredLoad neighbours mainRunning.raw neighboursMain.artifact "./x.js" ∧ ∀ limit,
      (loadAndRun neighbours idleHost limit mainRunning "./x.js" none).map Prod.fst =
        (loadAndRun neighbours idleHost limit mainRunning "./x.js" (some "lib/main.js")).map
          Prod.fst := by
  have hrunning : (find neighbours mainRunning.raw neighboursMain.artifact.uri none).1
      = .ok (some neighboursMain) := by rfl
  have hrelative : Reference.isRelative "./x.js" = true := by decide
  have htarget : Reference.resolve neighboursMain.artifact.uri "./x.js" = .ok "lib/x.js" := by rfl
  have hfound : (findAlone neighbours mainRunning.raw "lib/x.js").1
      = .ok (some ⟨⟨"lib/x.js", "x"⟩, some (.raw "lib/x.js")⟩) := by rfl
  have hreference : Anchored neighbours mainRunning.raw neighboursMain.artifact "./x.js" := by
    intro target hresolve
    obtain rfl := Except.ok.inj (htarget.symm.trans hresolve)
    rw [if_neg (by decide), hfound]
    intro hnothing
    cases hnothing
  have hload : AnchoredLoad neighbours mainRunning.raw neighboursMain.artifact "./x.js" := by
    refine ⟨hreference, ?_, ?_⟩
    · intro hnothing
      rw [findIn_of_unbased rfl hrelative, findUnbased_of_anchored hreference,
        findAgainst_of_target htarget, hfound] at hnothing
      cases hnothing
    · intro habsolute
      exact absurd habsolute (by decide)
  exact ⟨hload, (load_anchored neighbours idleHost mainRunning rfl hrunning hrelative).2.1 hload⟩

/-- An archive in which the only `x.js` lies at the root. -/
def rootAlone : Environment :=
  { archive := .ofFiles [("lib/main.js", "main"), ("x.js", "root")] }

/-- A state in which `lib/main.js` is running after it has been found. -/
def mainFound : Evaluation Unit :=
  { mainRunning with raw := ⟨[("lib/main.js", neighboursMain.artifact)]⟩ }

theorem find_mainFound : (find rootAlone mainFound.raw neighboursMain.artifact.uri none).1
    = .ok (some neighboursMain) := by rfl

theorem findAlone_rootAlone :
    findAlone rootAlone mainFound.raw "lib/x.js" = (.ok none, mainFound.raw) :=
  findAlone_of_absent rfl (by decide) (search_absent (by rfl) rfl (by decide))

/-- With `lib/main.js` for a base there is no such module, nor a source of it. -/
theorem resolve_rootAlone :
    (resolve rootAlone idleHost mainFound "./x.js" (some "lib/main.js")).1 = .ok none := by
  have htarget : Reference.resolve neighboursMain.artifact.uri "./x.js" = .ok "lib/x.js" := by rfl
  have hmodule : findIn rootAlone mainFound.raw "./x.js" (some "lib/main.js")
      (some neighboursMain.artifact) = (.ok none, mainFound.raw) :=
    (findIn_of_running find_mainFound rfl (by decide) _).trans
      ((findAgainst_of_target htarget).trans findAlone_rootAlone)
  have htarget' : Reference.resolve neighboursMain.artifact.uri "./x.ts" = .ok "lib/x.ts" := by rfl
  have hsource : findIn rootAlone mainFound.raw "./x.ts" (some "lib/main.js")
      (some neighboursMain.artifact) = (.ok none, mainFound.raw) :=
    (findIn_of_running find_mainFound rfl (by decide) _).trans
      ((findAgainst_of_target htarget').trans
        (findAlone_of_absent rfl (by decide) (search_absent (by rfl) rfl (by decide))))
  have hname : rootAlone.settings.convention.sourceCounterpart "./x.js" = some "./x.ts" := by rfl
  show (executableIn rootAlone idleHost.compiler mainFound.toCompileState "./x.js"
    (some "lib/main.js") (some neighboursMain.artifact)).1 = _
  rw [executableIn_of_unfound idleHost.compiler mainFound.toCompileState hmodule]
  unfold fromSource
  rw [hname]
  simp only
  rw [hsource]

/-- A reference that means nothing in the running module gives the module at the root that its text
finds.  With the running module for a base it gives nothing. -/
theorem load_unanchored_root :
    (find rootAlone mainFound.raw "lib/main.js" none).1 = .ok (some neighboursMain) ∧
      (loadAndRun rootAlone idleHost 1 mainFound "./x.js" none).map Prod.fst
        = some (.ok (some ⟨⟨"./x.js", "root"⟩, none⟩)) ∧
      (loadAndRun rootAlone idleHost 1 mainFound "./x.js" (some "lib/main.js")).map Prod.fst
        = some (.ok none) := by
  refine ⟨find_mainFound, ?_, ?_⟩
  · have hliteral : (resolve rootAlone idleHost mainFound "./x.js" none).1
        = .ok (some ⟨⟨"./x.js", "root"⟩, none⟩) :=
      (resolve_unanchored rfl find_mainFound (by decide) rfl (by rfl) (by decide)
        (congrArg Prod.fst findAlone_rootAlone) (by rfl)).1
    have hdue : due? rootAlone idleHost "./x.js" (resolve rootAlone idleHost mainFound "./x.js" none)
        = some (fun state _ _ => .finish state (.ok ()), ⟨⟨"./x.js", "root"⟩, none⟩) := by
      have hquiet := quiet_resolve rootAlone idleHost mainFound "./x.js" none
      refine due?_eq_some_iff.mpr ⟨hliteral, rfl, by decide, hquiet.isEvaluated _, ?_⟩
      unfold isRunning
      rw [hquiet.stack]
      decide
    rw [loadAndRun_succ_due hdue]
    rfl
  · have hresolve := resolve_rootAlone
    have hidle : due? rootAlone idleHost "./x.js"
        (resolve rootAlone idleHost mainFound "./x.js" (some "lib/main.js")) = none := by
      refine Option.eq_none_iff_forall_ne_some.mpr ?_
      rintro ⟨runtime, found⟩ hdue
      rw [(due?_eq_some_iff.mp hdue).1] at hresolve
      cases hresolve
    rw [loadAndRun_idle hidle, Option.map_some, hresolve]

end ModuleLoader.Evaluation
