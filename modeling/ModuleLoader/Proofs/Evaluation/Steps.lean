/-
What can happen next.

A history of the loader is a path of three steps: a module is asked for, a module begins to
run, a run ends.  `Step` says of each what it needs and what it does to the stack and to the
set of modules that have run; whatever else of the state changes in between, what has been
found and compiled and the state of the host, plays no part in them and is left open.

Every invariant of runs is proved of the steps and read off the path.  What makes a history
a path is that loads leave the stack as it was, so both are shown in one induction
(`Tracks`): the end of a run takes off the very module that its beginning put on.
-/
import ModuleLoader.Proofs.Evaluation.History

namespace ModuleLoader.Evaluation

variable {σ α : Type}

/-! ### The stack and the set of modules that have run -/

theorem isRunning_eq_false_iff {state : Evaluation σ} {u : String} :
    state.isRunning u = false ↔ u ∉ state.stack.map (·.uri) := by
  simp only [isRunning, List.any_eq_false, decide_eq_true_eq, List.mem_map, not_exists, not_and]

@[simp] theorem push_stack (state : Evaluation σ) (artifact : Artifact) :
    (state.push artifact).stack = artifact :: state.stack := rfl

@[simp] theorem push_isEvaluated (state : Evaluation σ) (artifact : Artifact) (u : String) :
    (state.push artifact).isEvaluated u = state.isEvaluated u := rfl

theorem truncate_stack {state : Evaluation σ} {artifact : Artifact} {rest : List Artifact}
    (h : state.stack = artifact :: rest) : (state.truncate rest.length).stack = rest := by
  simp [truncate, h]

theorem leave_stack {state : Evaluation σ} {artifact : Artifact} {rest : List Artifact}
    (h : state.stack = artifact :: rest) (specifier : String) (found : Found)
    (result : Except String Unit) : (leave rest.length specifier found result state).2.stack = rest := by
  rcases result with cause | _
  · exact truncate_stack h
  · exact truncate_stack h

/-- A module has run once its run has ended well, and in no other way. -/
theorem leave_isEvaluated (depth : Nat) (specifier : String) (found : Found)
    (result : Except String Unit) (state : Evaluation σ) (u : String) :
    (leave depth specifier found result state).2.isEvaluated u = true ↔
      state.isEvaluated u = true ∨ (result = .ok () ∧ u = found.artifact.uri) := by
  rcases result with cause | _
  · show state.isEvaluated u = true ↔ _
    simp
  · show (state.evaluated.insert found.artifact.uri).contains u = true ↔ _
    simp [isEvaluated, or_comm]

/-- A module comes to run if it has been found, is asked for in compiled form, and neither
has run nor is running. -/
theorem due?_eq_some_iff {env : Environment} {host : Host σ} {specifier : String}
    {resolved : Outcome × Evaluation σ} {runtime : Runtime σ} {found : Found} :
    due? env host specifier resolved = some (runtime, found) ↔
      resolved.1 = .ok (some found) ∧ host.runtime = some runtime ∧
      env.settings.convention.kindOf specifier = .compiled ∧
      resolved.2.isEvaluated found.artifact.uri = false ∧
      resolved.2.isRunning found.artifact.uri = false := by
  obtain ⟨outcome, state⟩ := resolved
  rcases outcome with e | _ | other
  · simp [due?]
  · simp [due?]
  · have hdue : isDue env state specifier other = true ↔
        env.settings.convention.kindOf specifier = .compiled ∧
        state.isEvaluated other.artifact.uri = false ∧
        state.isRunning other.artifact.uri = false := by
      simp [isDue, and_assoc]
    simp only [due?, hdue, Except.ok.injEq, Option.some.injEq]
    constructor
    · intro h
      split at h
      · rename_i hyes
        obtain ⟨r, hr, heq⟩ := Option.map_eq_some_iff.mp h
        obtain ⟨rfl, rfl⟩ := Prod.mk.inj heq
        exact ⟨rfl, hr, hyes⟩
      · cases h
    · rintro ⟨rfl, hr, hyes⟩
      rw [if_pos hyes, hr]
      rfl

/-! ### Steps and paths -/

/-- From one state to the other no run begins or ends. -/
structure Quiet (s t : Evaluation σ) : Prop where
  evaluated : t.evaluated = s.evaluated
  stack : t.stack = s.stack

theorem Quiet.refl (s : Evaluation σ) : Quiet s s := ⟨rfl, rfl⟩

theorem Quiet.trans {s t w : Evaluation σ} (h₁ : Quiet s t) (h₂ : Quiet t w) : Quiet s w :=
  ⟨h₂.evaluated.trans h₁.evaluated, h₂.stack.trans h₁.stack⟩

theorem Quiet.isEvaluated {s t : Evaluation σ} (h : Quiet s t) (u : String) :
    t.isEvaluated u = s.isEvaluated u := by
  unfold Evaluation.isEvaluated
  rw [h.evaluated]

theorem quiet_host (s : Evaluation σ) (host : σ) : Quiet s { s with host := host } := ⟨rfl, rfl⟩

theorem quiet_resolve (env : Environment) (host : Host σ) (state : Evaluation σ)
    (specifier : String) (base : Option String) :
    Quiet state (resolve env host state specifier base).2 := ⟨rfl, rfl⟩

/-- What the next moment can be. -/
inductive Step (state : Evaluation σ) : Moment σ → Prop
  /-- A module is asked for. -/
  | load (env : Environment) (specifier : String) (base : Option String) (next : Evaluation σ)
      (hquiet : Quiet state next) : Step state ⟨.load env specifier base, next⟩
  /-- A module that has not run and is not running begins to run. -/
  | start (artifact : Artifact) (resolved : Evaluation σ) (hquiet : Quiet state resolved)
      (hnew : resolved.isEvaluated artifact.uri = false)
      (hidle : resolved.isRunning artifact.uri = false) :
      Step state ⟨.start artifact.uri, resolved.push artifact⟩
  /-- The run of the module on top of the stack ends, and if it ends well that module has
  run. -/
  | finish (artifact : Artifact) (rest : List Artifact) (result : Except String Unit)
      (next : Evaluation σ) (htop : state.stack = artifact :: rest) (hstack : next.stack = rest)
      (hevaluated : ∀ u, next.isEvaluated u = true ↔
        state.isEvaluated u = true ∨ (result = .ok () ∧ u = artifact.uri)) :
      Step state ⟨.finish artifact.uri result, next⟩

/-- Moments, each a step from the one before. -/
inductive Path : Evaluation σ → List (Moment σ) → Evaluation σ → Prop
  | nil {s t : Evaluation σ} (hquiet : Quiet s t) : Path s [] t
  | cons {s t : Evaluation σ} {m : Moment σ} {ms : List (Moment σ)} (hstep : Step s m)
      (hpath : Path m.state ms t) : Path s (m :: ms) t

theorem Step.of_quiet {s t : Evaluation σ} {m : Moment σ} (hquiet : Quiet s t)
    (h : Step t m) : Step s m := by
  cases h with
  | load env specifier base next hnext => exact .load env specifier base next (hquiet.trans hnext)
  | start artifact resolved hres hnew hidle =>
      exact .start artifact resolved (hquiet.trans hres) hnew hidle
  | finish artifact rest result next htop hstack hevaluated =>
      refine .finish artifact rest result next (by rw [← hquiet.stack, htop]) hstack fun u => ?_
      rw [hevaluated u, hquiet.isEvaluated u]

theorem Path.of_quiet {s t w : Evaluation σ} {ms : List (Moment σ)} (hquiet : Quiet s t)
    (h : Path t ms w) : Path s ms w := by
  cases h with
  | nil hlast => exact .nil (hquiet.trans hlast)
  | cons hstep hpath => exact .cons (hstep.of_quiet hquiet) hpath

theorem Path.append {s t w : Evaluation σ} {ms ns : List (Moment σ)} (h₁ : Path s ms t)
    (h₂ : Path t ns w) : Path s (ms ++ ns) w := by
  induction h₁ with
  | nil hquiet => exact h₂.of_quiet hquiet
  | cons hstep _ ih => exact .cons hstep (ih h₂)

/-- Whatever the steps keep of a state and what came before it, a path keeps. -/
theorem Path.keeps {P : List (Moment σ) → Evaluation σ → Prop}
    (hquiet : ∀ past s t, P past s → Quiet s t → P past t)
    (hstep : ∀ past s m, P past s → Step s m → P (past ++ [m]) m.state)
    {s t : Evaluation σ} {ms : List (Moment σ)} (hpath : Path s ms t) :
    ∀ {past : List (Moment σ)}, P past s → P (past ++ ms) t := by
  induction hpath with
  | nil h =>
      intro past ok
      rw [List.append_nil]
      exact hquiet _ _ _ ok h
  | @cons s t m ms hm _ ih =>
      intro past ok
      have h := ih (hstep _ _ _ ok hm)
      rwa [List.append_assoc] at h

/-- Every moment of a path is a step from a state that the moments before it lead to. -/
theorem Path.split {s t : Evaluation σ} {ms later : List (Moment σ)} {m : Moment σ}
    (hpath : Path s ms t) :
    ∀ {past : List (Moment σ)}, ms = past ++ m :: later →
      ∃ before, Path s past before ∧ Step before m := by
  induction hpath with
  | nil hquiet =>
      intro past h
      cases past <;> cases h
  | @cons s t first ms hstep _ ih =>
      intro past h
      cases past with
      | nil =>
          obtain ⟨rfl, -⟩ := List.cons.inj h
          exact ⟨s, .nil (Quiet.refl s), hstep⟩
      | cons m' past =>
          obtain ⟨rfl, hrest⟩ := List.cons.inj h
          obtain ⟨before, hbefore, hm⟩ := ih hrest
          exact ⟨before, .cons hstep hbefore, hm⟩

/-! ### Every history is a path -/

/-- The history is a path from the state, and the state that comes of it has the same
stack. -/
structure Tracks (state : Evaluation σ) (x : Observed σ (α × Evaluation σ)) : Prop where
  path : ∃ last, Path state x.history last
  result : ∀ a last, x.result = some (a, last) →
    Path state x.history last ∧ last.stack = state.stack

theorem Tracks.of_quiet {s t : Evaluation σ} {x : Observed σ (α × Evaluation σ)}
    (hquiet : Quiet s t) (h : Tracks t x) : Tracks s x := by
  refine ⟨?_, ?_⟩
  · obtain ⟨last, hpath⟩ := h.path
    exact ⟨last, hpath.of_quiet hquiet⟩
  · intro a last hx
    obtain ⟨hpath, hstack⟩ := h.result a last hx
    exact ⟨hpath.of_quiet hquiet, hstack.trans hquiet.stack⟩

theorem tracks_pure {s t : Evaluation σ} (hquiet : Quiet s t) (a : α) :
    Tracks s (.pure (a, t)) := by
  refine ⟨⟨t, .nil hquiet⟩, ?_⟩
  rintro b last h
  cases h
  exact ⟨.nil hquiet, hquiet.stack⟩

theorem Tracks.after_load {state : Evaluation σ} {x : Observed σ (α × Evaluation σ)}
    (h : Tracks state x) (env : Environment) (specifier : String) (base : Option String) :
    Tracks state (.after ⟨.load env specifier base, state⟩ x) := by
  have hstep := Step.load env specifier base state (Quiet.refl state)
  refine ⟨?_, ?_⟩
  · obtain ⟨last, hpath⟩ := h.path
    exact ⟨last, .cons hstep hpath⟩
  · intro a last hx
    obtain ⟨hpath, hstack⟩ := h.result a last hx
    exact ⟨.cons hstep hpath, hstack⟩

theorem Tracks.andThen {β : Type} {state : Evaluation σ} {x : Observed σ (α × Evaluation σ)}
    {f : α × Evaluation σ → Observed σ (β × Evaluation σ)} (hx : Tracks state x)
    (hf : ∀ a t, Tracks t (f (a, t))) : Tracks state (x.andThen f) := by
  unfold Observed.andThen
  rcases hr : x.result with _ | ⟨a, t⟩
  · exact ⟨hx.path, by intro b last h; cases h⟩
  · obtain ⟨hpath, hstack⟩ := hx.result a t hr
    refine ⟨?_, ?_⟩
    · obtain ⟨last, hlast⟩ := (hf a t).path
      exact ⟨last, hpath.append hlast⟩
    · intro b last h
      obtain ⟨hlast, hstack'⟩ := (hf a t).result b last h
      exact ⟨hpath.append hlast, hstack'.trans hstack⟩

theorem tracks_perform {load : ObservedLoad σ}
    (hload : ∀ state specifier base, Tracks state (load state specifier base))
    (r : RuntimeRun σ) : ∀ state : Evaluation σ, Tracks state (performObserved load r state) := by
  induction r with
  | finish host result =>
      intro state
      show Tracks state (.pure (result, { state with host := host }))
      exact tracks_pure (quiet_host state host) result
  | load host specifier base next ih =>
      intro state
      exact ((hload _ specifier base).of_quiet (quiet_host state host)).andThen
        fun answer after => ih after.host answer after

theorem tracks_execute {load : ObservedLoad σ}
    (hload : ∀ state specifier base, Tracks state (load state specifier base))
    (runtime : Runtime σ) (state : Evaluation σ) (specifier : String) (found : Found)
    (hnew : state.isEvaluated found.artifact.uri = false)
    (hidle : state.isRunning found.artifact.uri = false) :
    Tracks state (executeObserved load runtime state specifier found) := by
  have hstep := Step.start found.artifact state (Quiet.refl state) hnew hidle
  have hrun := tracks_perform hload
    (runtime (state.push found.artifact).host found.artifact (state.push found.artifact).stack)
    (state.push found.artifact)
  unfold executeObserved Observed.after Observed.andThen
  simp only
  rcases hr : (performObserved load (runtime (state.push found.artifact).host found.artifact
    (state.push found.artifact).stack) (state.push found.artifact)).result with _ | ⟨result, ended⟩
  · obtain ⟨last, hpath⟩ := hrun.path
    exact ⟨⟨last, .cons hstep hpath⟩, by intro a last h; cases h⟩
  · obtain ⟨hpath, htop⟩ := hrun.result result ended hr
    have hstack : (leave state.depth specifier found result ended).2.stack = state.stack :=
      leave_stack htop specifier found result
    have hfinish := Step.finish found.artifact state.stack result
      (leave state.depth specifier found result ended).2 htop hstack
      (leave_isEvaluated state.depth specifier found result ended)
    have hwhole := Path.cons hstep
      (hpath.append (.cons hfinish (.nil (Quiet.refl _))))
    refine ⟨⟨_, hwhole⟩, ?_⟩
    rintro a last h
    obtain rfl : _ = last := congrArg Prod.snd (Option.some.inj h)
    exact ⟨hwhole, hstack⟩

/-- **Every history is a path, and a load leaves the stack as it was.** -/
theorem tracks_observe (env : Environment) (host : Host σ) :
    ∀ (limit : Nat) (state : Evaluation σ) (specifier : String) (base : Option String),
      Tracks state (observe env host limit state specifier base) := by
  intro limit
  induction limit with
  | zero =>
      intro state specifier base
      have hquiet := quiet_resolve env host state specifier base
      rcases h : due? env host specifier (resolve env host state specifier base)
        with _ | ⟨runtime, found⟩
      · rw [observe_idle h]
        exact (tracks_pure hquiet _).after_load env specifier base
      · rw [observe_zero_due h]
        obtain ⟨-, -, -, hnew, hidle⟩ := due?_eq_some_iff.mp h
        have hpath := Path.cons (.start found.artifact _ hquiet hnew hidle) (.nil (Quiet.refl _))
        exact Tracks.after_load ⟨⟨_, hpath⟩, by intro a last h; cases h⟩ env specifier base
  | succ limit ih =>
      intro state specifier base
      have hquiet := quiet_resolve env host state specifier base
      rcases h : due? env host specifier (resolve env host state specifier base)
        with _ | ⟨runtime, found⟩
      · rw [observe_idle h]
        exact (tracks_pure hquiet _).after_load env specifier base
      · rw [observe_succ_due h]
        obtain ⟨-, -, -, hnew, hidle⟩ := due?_eq_some_iff.mp h
        exact ((tracks_execute ih runtime _ specifier found hnew hidle).of_quiet hquiet).after_load
          env specifier base

theorem tracks_observeAll (host : Host σ) (limit : Nat) (calls : List Call) :
    ∀ state : Evaluation σ, Tracks state (observeAll host limit calls state) := by
  induction calls with
  | nil => intro state; exact tracks_pure (Quiet.refl state) []
  | cons call rest ih =>
      intro state
      refine (tracks_observe call.env host limit state call.specifier call.base).andThen ?_
      intro outcome after
      exact (ih after).andThen fun outcomes last => tracks_pure (Quiet.refl last) _

end ModuleLoader.Evaluation
