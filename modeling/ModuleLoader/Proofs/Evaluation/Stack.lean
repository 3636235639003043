/-
The stack is that of the runs that are open.

What the stack should hold is said in terms of the history alone: a run that begins is put on
top of the open ones, and one that ends is the topmost and is taken off (`openRuns`).  `Nested`
says that the stack holds just these modules, that they are different ones and that none of
them counts as having run.  It joins two facts that need each other: the notes and the stack
stay apart because a run that ends takes its module off before it is noted, and because no
other run on the stack is of the same module.

Histories tell of the loads of all modules.  What a single run sees of the stack is said of
the tree of its loads (`Issues`): between two of its loads others may run, fail and nest as
they like, and it finds itself on top again.
-/
import ModuleLoader.Proofs.Evaluation.Depth

namespace ModuleLoader.Evaluation

variable {σ α : Type}

/-! ### A load leaves the stack as it was -/

theorem loadAndRun_stack {env : Environment} {host : Host σ} {limit : Nat}
    {state after : Evaluation σ} {specifier : String} {base : Option String} {outcome : Outcome}
    (h : loadAndRun env host limit state specifier base = some (outcome, after)) :
    after.stack = state.stack := by
  rw [← observe_result] at h
  exact ((tracks_observe env host limit state specifier base).result outcome after h).2

/-! ### The stack that a run sees -/

/-- The run, performed from a state, comes to issue a load in the state `seen`. -/
inductive Issues (load : Load σ) : RuntimeRun σ → Evaluation σ → Evaluation σ → Prop
  /-- Its first load. -/
  | first (host : σ) (specifier : String) (base : Option String)
      (next : σ → Outcome → RuntimeRun σ) (state : Evaluation σ) :
      Issues load (.load host specifier base next) state { state with host := host }
  /-- One that it issues after the first was answered. -/
  | later (host : σ) (specifier : String) (base : Option String)
      (next : σ → Outcome → RuntimeRun σ) (state : Evaluation σ) (answer : Outcome)
      (after seen : Evaluation σ)
      (hanswer : load { state with host := host } specifier base = some (answer, after))
      (hlater : Issues load (next after.host answer) after seen) :
      Issues load (.load host specifier base next) state seen

theorem Issues.stack {load : Load σ}
    (hload : ∀ state specifier base outcome after,
      load state specifier base = some (outcome, after) → after.stack = state.stack)
    {r : RuntimeRun σ} {state seen : Evaluation σ} (h : Issues load r state seen) :
    seen.stack = state.stack := by
  induction h with
  | first host specifier base next state => rfl
  | later host specifier base next state answer after seen hanswer _ ih =>
      exact ih.trans (hload { state with host := host } _ _ _ _ hanswer)

/-! ### The runs that are open -/

/-- The open runs after an event, the innermost first. -/
def Event.nest : Event → List String → List String
  | .load _ _ _, runs => runs
  | .start u, runs => u :: runs
  | .finish _ _, runs => runs.tail

/-- The identities of the modules whose runs have begun and not ended, the innermost first. -/
def openRuns (past : List (Moment σ)) : List String :=
  past.foldl (fun runs m => m.event.nest runs) []

theorem openRuns_concat (past : List (Moment σ)) (m : Moment σ) :
    openRuns (past ++ [m]) = m.event.nest (openRuns past) := by
  simp [openRuns]

/-- The stack holds the modules whose runs are open.  They are different modules, and none of
them counts as having run. -/
structure Nested (past : List (Moment σ)) (state : Evaluation σ) : Prop
    extends Stacked past state where
  stack : state.stack.map (·.uri) = openRuns past
  unevaluated : ∀ u ∈ state.stack.map (·.uri), state.isEvaluated u = false

namespace Nested

variable {past : List (Moment σ)} {state : Evaluation σ}

theorem fresh (compile : CompileState σ) : Nested [] ({ toCompileState := compile } : Evaluation σ) where
  nodup := List.nodup_nil
  begun u hu := by cases hu
  stack := rfl
  unevaluated u hu := by cases hu

theorem of_quiet {next : Evaluation σ} (ok : Nested past state) (hquiet : Quiet state next) :
    Nested past next := by
  refine ⟨ok.toStacked.of_quiet hquiet, ?_, ?_⟩
  · rw [hquiet.stack, ok.stack]
  · rw [hquiet.stack]
    intro u hu
    rw [hquiet.isEvaluated, ok.unevaluated u hu]

theorem step {m : Moment σ} (ok : Nested past state) (hstep : Step state m) :
    Nested (past ++ [m]) m.state := by
  refine ⟨ok.toStacked.step hstep, ?_, ?_⟩
  · rw [openRuns_concat, ← ok.stack]
    cases hstep with
    | load env specifier base next hquiet =>
        show next.stack.map (·.uri) = state.stack.map (·.uri)
        rw [hquiet.stack]
    | start artifact resolved hquiet hnew hidle =>
        show artifact.uri :: resolved.stack.map (·.uri) = artifact.uri :: state.stack.map (·.uri)
        rw [hquiet.stack]
    | finish artifact rest result next htop hstack hevaluated =>
        show next.stack.map (·.uri) = (state.stack.map (·.uri)).tail
        rw [hstack, htop]
        rfl
  · cases hstep with
    | load env specifier base next hquiet => exact (ok.of_quiet hquiet).unevaluated
    | start artifact resolved hquiet hnew hidle =>
        show ∀ u ∈ artifact.uri :: resolved.stack.map (·.uri), resolved.isEvaluated u = false
        intro u hu
        rcases List.mem_cons.mp hu with rfl | hu
        · exact hnew
        · exact (ok.of_quiet hquiet).unevaluated u hu
    | finish artifact rest result next htop hstack hevaluated =>
        -- Only the module taken off is noted, and it stands nowhere else on the stack.
        have hnodup := ok.nodup
        have hunevaluated := ok.unevaluated
        rw [htop] at hnodup hunevaluated
        show ∀ u ∈ next.stack.map (·.uri), next.isEvaluated u = false
        rw [hstack]
        intro u hu
        have hne : u ≠ artifact.uri := by
          rintro rfl
          exact (List.nodup_cons.mp hnodup).1 hu
        rw [← Bool.not_eq_true, hevaluated u, hunevaluated u (List.mem_cons_of_mem _ hu)]
        rintro (h | ⟨-, h⟩)
        · cases h
        · exact hne h

theorem path {ms : List (Moment σ)} {last : Evaluation σ} (ok : Nested past state)
    (hpath : Path state ms last) : Nested (past ++ ms) last :=
  hpath.keeps (fun _ _ _ ok hquiet => ok.of_quiet hquiet) (fun _ _ _ ok hstep => ok.step hstep) ok

/-- The run that ends is the innermost one. -/
theorem innermost {u : String} {result : Except String Unit} {next : Evaluation σ}
    (ok : Nested past state) (hstep : Step state ⟨.finish u result, next⟩) :
    openRuns past = u :: next.stack.map (·.uri) := by
  cases hstep with
  | finish artifact rest result next htop hstack hevaluated =>
      rw [← ok.stack, htop, hstack]
      rfl

end Nested

/-! ### The discipline -/

/-- How the stack is kept by a host. -/
structure Disciplined (host : Host σ) (seen : Observed σ (α × Evaluation σ)) : Prop where
  /-- A load leaves the stack as it was, whatever comes of it. -/
  kept : ∀ env limit (state : Evaluation σ) specifier base outcome after,
    loadAndRun env host limit state specifier base = some (outcome, after) →
    after.stack = state.stack
  /-- Whenever a module that is running issues a load, it is on top of the stack, and below it
  is what was there before it began to run. -/
  onTop : ∀ env limit (runtime : Runtime σ) (state : Evaluation σ) artifact issuing,
    Issues (loadAndRun env host limit)
      (runtime (state.push artifact).host artifact (state.push artifact).stack)
      (state.push artifact) issuing →
    issuing.stack = artifact :: state.stack ∧ issuing.context? = some artifact
  /-- At every moment the stack holds the modules whose runs are open, which are different
  ones and do not count as having run. -/
  nested : ∀ past m later, seen.history = past ++ m :: later → Nested (past ++ [m]) m.state
  /-- The run that ends is always the innermost, and it uncovers the runs below it. -/
  innermost : ∀ past u result state later, seen.history = past ++ ⟨.finish u result, state⟩ :: later →
    openRuns past = u :: state.stack.map (·.uri)
  /-- Afterwards nothing is running. -/
  ended : ∀ a last, seen.result = some (a, last) → last.stack = [] ∧ openRuns seen.history = []

theorem Disciplined.of_tracks {host : Host σ} {seen : Observed σ (α × Evaluation σ)}
    {state : Evaluation σ} (hempty : state.stack = []) (ok : Nested [] state)
    (htracks : Tracks state seen) : Disciplined host seen := by
  obtain ⟨last, hpath⟩ := htracks.path
  refine ⟨?_, ?_, ?_, ?_, ?_⟩
  · intro env limit state specifier base outcome after h
    exact loadAndRun_stack h
  · intro env limit runtime state artifact issuing h
    have hstack : issuing.stack = artifact :: state.stack := h.stack fun _ _ _ _ _ => loadAndRun_stack
    refine ⟨hstack, ?_⟩
    unfold context?
    rw [hstack]
    rfl
  · intro past m later h
    obtain ⟨before, hbefore, hstep⟩ := hpath.split h
    have hnested := ok.path hbefore
    exact hnested.step hstep
  · intro past u result state later h
    obtain ⟨before, hbefore, hstep⟩ := hpath.split h
    have hnested := ok.path hbefore
    exact hnested.innermost hstep
  · intro a last h
    obtain ⟨hpath, hstack⟩ := htracks.result a last h
    have hlast : last.stack = [] := hstack.trans hempty
    have hopen := (ok.path hpath).stack
    rw [hlast] at hopen
    exact ⟨hlast, hopen.symm⟩

/-- **Modules stand on the stack just while they run.**  However many loads there are, whatever
the host does in them, and however they nest and fail: every load leaves the stack as it was, a
module that issues a load stands on top, and the modules on the stack are different ones that
have not run yet. -/
theorem loadAll_disciplined (host : Host σ) (limit : Nat) (calls : List Call)
    (compile : CompileState σ) :
    let start : Evaluation σ := { toCompileState := compile }
    (observeAll host limit calls start).result = loadAll host limit calls start ∧
      Disciplined host (observeAll host limit calls start) := by
  intro start
  refine ⟨observeAll_result host limit calls start, ?_⟩
  exact .of_tracks rfl (.fresh compile) (tracks_observeAll host limit calls start)

end ModuleLoader.Evaluation
