/-
What happens in the course of a load.

`loadAndRun` gives the outcome of a load and the state after it.  `observe` is the same
recursion and tells the way there as well: every module that is asked for, every run that
begins and every run that ends, each with the state of the loader right after it.  That it
is the same recursion is `observe_result`.

A load that nests too deeply has no result, but it has a history, up to the moment at
which the module that is one too deep begins to run.  Whatever a run does that never comes
to an end, it does in the history of some limit.

The invariants are not proved along that recursion.  Each moment comes of the one before
it by one of three steps, `Step`, and a history is a path of them (`tracks_observe`); what a
step keeps, every moment has.  The one thing that is proved along the recursion is that a
load leaves the stack as it was, since it is what makes the end of a run a step: the module
taken off the stack is the one that was put there.
-/
import ModuleLoader.Evaluation

namespace ModuleLoader.Evaluation

variable {σ : Type}

/-! ### Histories -/

/-- What can happen while modules are loaded. -/
inductive Event where
  /-- A module is asked for. -/
  | load (env : Environment) (specifier : String) (base : Option String)
  /-- A module begins to run. -/
  | start (uri : String)
  /-- The run of a module ends, well or with the text of an error. -/
  | finish (uri : String) (result : Except String Unit)

/-- An event, and the state of the loader right after it. -/
structure Moment (σ : Type) where
  event : Event
  state : Evaluation σ

/-- What happened, in order, and what came of it, unless loads nest too deeply. -/
structure Observed (σ α : Type) where
  history : List (Moment σ)
  result : Option α

namespace Observed

variable {α β : Type}

/-- Nothing happens. -/
def pure (a : α) : Observed σ α := ⟨[], some a⟩

/-- Goes on with what came of it. -/
def andThen (x : Observed σ α) (f : α → Observed σ β) : Observed σ β :=
  match x.result with
  | none => ⟨x.history, none⟩
  | some a => ⟨x.history ++ (f a).history, (f a).result⟩

/-- Something happens first. -/
def after (moment : Moment σ) (x : Observed σ α) : Observed σ α := ⟨moment :: x.history, x.result⟩

end Observed

/-- A load that is observed. -/
abbrev ObservedLoad (σ : Type) :=
  Evaluation σ → String → Option String → Observed σ (Outcome × Evaluation σ)

/-- Runs a runtime to its end, observing its loads. -/
def performObserved (load : ObservedLoad σ) :
    RuntimeRun σ → Evaluation σ → Observed σ (Except String Unit × Evaluation σ)
  | .finish host result, state => .pure (result, { state with host := host })
  | .load host specifier base next, state =>
    (load { state with host := host } specifier base).andThen fun answered =>
      performObserved load (next answered.2.host answered.1) answered.2

/-- Runs a module, observing its loads. -/
def executeObserved (load : ObservedLoad σ) (runtime : Runtime σ) (state : Evaluation σ)
    (specifier : String) (found : Found) : Observed σ (Outcome × Evaluation σ) :=
  let running := state.push found.artifact
  .after ⟨.start found.artifact.uri, running⟩ <|
    (performObserved load (runtime running.host found.artifact running.stack) running).andThen
      fun ended =>
        let left := leave state.depth specifier found ended.1 ended.2
        ⟨[⟨.finish found.artifact.uri ended.1, left.2⟩], some left⟩

/-- Loads a module, observing what happens.  A module that nests too deeply is seen to
begin, and no more. -/
def observe (env : Environment) (host : Host σ) : Nat → ObservedLoad σ
  | 0, state, specifier, base =>
    let resolved := resolve env host state specifier base
    .after ⟨.load env specifier base, state⟩ <|
      match due? env host specifier resolved with
      | none => .pure resolved
      | some (_, found) =>
        ⟨[⟨.start found.artifact.uri, resolved.2.push found.artifact⟩], none⟩
  | limit + 1, state, specifier, base =>
    let resolved := resolve env host state specifier base
    .after ⟨.load env specifier base, state⟩ <|
      match due? env host specifier resolved with
      | none => .pure resolved
      | some (runtime, found) =>
        executeObserved (observe env host limit) runtime resolved.2 specifier found

/-- A call from outside, and everything modules are found in when it comes. -/
structure Call where
  env : Environment
  specifier : String
  base : Option String

/-- Performs calls in order, and gives their outcomes and the last state. -/
def loadAll (host : Host σ) (limit : Nat) :
    List Call → Evaluation σ → Option (List Outcome × Evaluation σ)
  | [], state => some ([], state)
  | call :: rest, state =>
    match loadAndRun call.env host limit state call.specifier call.base with
    | none => none
    | some (outcome, state) =>
      (loadAll host limit rest state).map fun (outcomes, state) => (outcome :: outcomes, state)

/-- Performs calls in order, observing what happens. -/
def observeAll (host : Host σ) (limit : Nat) :
    List Call → Evaluation σ → Observed σ (List Outcome × Evaluation σ)
  | [], state => .pure ([], state)
  | call :: rest, state =>
    (observe call.env host limit state call.specifier call.base).andThen fun answered =>
      (observeAll host limit rest answered.2).andThen fun others =>
        .pure (answered.1 :: others.1, others.2)

/-! ### What a load does

A load comes to run a module or it does not, and `due?` says which.  The equations below
are all that is ever used of `loadAndRun` and `observe`.
-/

section Cases

variable {env : Environment} {host : Host σ} {state : Evaluation σ} {specifier : String}
  {base : Option String}

theorem loadAndRun_idle
    (h : due? env host specifier (resolve env host state specifier base) = none) (limit : Nat) :
    loadAndRun env host limit state specifier base
      = some (resolve env host state specifier base) := by
  cases limit with
  | zero => unfold loadAndRun; simp only [h]
  | succ limit => unfold loadAndRun; simp only [h]

theorem observe_idle
    (h : due? env host specifier (resolve env host state specifier base) = none) (limit : Nat) :
    observe env host limit state specifier base =
      .after ⟨.load env specifier base, state⟩ (.pure (resolve env host state specifier base)) := by
  cases limit with
  | zero => unfold observe; simp only [h]
  | succ limit => unfold observe; simp only [h]

variable {runtime : Runtime σ} {found : Found}

theorem loadAndRun_zero_due
    (h : due? env host specifier (resolve env host state specifier base) = some (runtime, found)) :
    loadAndRun env host 0 state specifier base = none := by
  unfold loadAndRun
  simp only [h]

theorem observe_zero_due
    (h : due? env host specifier (resolve env host state specifier base) = some (runtime, found)) :
    observe env host 0 state specifier base =
      .after ⟨.load env specifier base, state⟩
        ⟨[⟨.start found.artifact.uri,
          (resolve env host state specifier base).2.push found.artifact⟩], none⟩ := by
  unfold observe
  simp only [h]

theorem loadAndRun_succ_due
    (h : due? env host specifier (resolve env host state specifier base) = some (runtime, found))
    (limit : Nat) :
    loadAndRun env host (limit + 1) state specifier base =
      execute (loadAndRun env host limit) runtime
        (resolve env host state specifier base).2 specifier found := by
  rw [loadAndRun]
  simp only [h]

theorem observe_succ_due
    (h : due? env host specifier (resolve env host state specifier base) = some (runtime, found))
    (limit : Nat) :
    observe env host (limit + 1) state specifier base =
      .after ⟨.load env specifier base, state⟩
        (executeObserved (observe env host limit) runtime
          (resolve env host state specifier base).2 specifier found) := by
  rw [observe]
  simp only [h]

end Cases

/-! ### Observing changes nothing -/

theorem perform_observed (load : ObservedLoad σ) (r : RuntimeRun σ) :
    ∀ state : Evaluation σ, (performObserved load r state).result =
      perform (fun state specifier base => (load state specifier base).result) r state := by
  induction r with
  | finish host result => intro state; rfl
  | load host specifier base next ih =>
      intro state
      unfold performObserved perform Observed.andThen
      rcases (load { state with host := host } specifier base).result with _ | ⟨answer, after⟩
      · rfl
      · exact ih after.host answer after

theorem execute_observed (load : ObservedLoad σ) (runtime : Runtime σ) (state : Evaluation σ)
    (specifier : String) (found : Found) :
    (executeObserved load runtime state specifier found).result =
      execute (fun state specifier base => (load state specifier base).result) runtime state
        specifier found := by
  unfold executeObserved execute Observed.after Observed.andThen
  simp only
  rw [← perform_observed]
  rcases (performObserved load (runtime (state.push found.artifact).host found.artifact
    (state.push found.artifact).stack) (state.push found.artifact)).result with _ | ended <;> rfl

theorem observe_result (env : Environment) (host : Host σ) :
    ∀ (limit : Nat) (state : Evaluation σ) (specifier : String) (base : Option String),
      (observe env host limit state specifier base).result =
        loadAndRun env host limit state specifier base := by
  intro limit
  induction limit with
  | zero =>
      intro state specifier base
      rcases h : due? env host specifier (resolve env host state specifier base)
        with _ | ⟨runtime, found⟩
      · rw [observe_idle h, loadAndRun_idle h]
        rfl
      · rw [observe_zero_due h, loadAndRun_zero_due h]
        rfl
  | succ limit ih =>
      intro state specifier base
      rcases h : due? env host specifier (resolve env host state specifier base)
        with _ | ⟨runtime, found⟩
      · rw [observe_idle h, loadAndRun_idle h]
        rfl
      · rw [observe_succ_due h, loadAndRun_succ_due h]
        refine (execute_observed _ runtime _ specifier found).trans ?_
        rw [show (fun state specifier base => (observe env host limit state specifier base).result)
          = loadAndRun env host limit from funext fun s => funext fun n => funext fun b => ih s n b]

/-- **The history is that of `loadAndRun`.** -/
theorem observeAll_result (host : Host σ) (limit : Nat) (calls : List Call) :
    ∀ state : Evaluation σ,
      (observeAll host limit calls state).result = loadAll host limit calls state := by
  induction calls with
  | nil => intro state; rfl
  | cons call rest ih =>
      intro state
      unfold observeAll loadAll Observed.andThen
      rw [observe_result]
      rcases loadAndRun call.env host limit state call.specifier call.base
        with _ | ⟨outcome, after⟩
      · rfl
      · simp only
        rw [ih after]
        rcases loadAll host limit rest after with _ | ⟨outcomes, last⟩ <;> rfl

end ModuleLoader.Evaluation
