/-
Every module runs once.

Two things keep a module from running again: it stands on the stack while it runs, and it
is noted when its run has ended well.  What they mean is said in terms of the history
alone: a run is open if it has begun and not ended, and a module has succeeded if some run
of it has ended well.  `Agrees` says that the stack and the notes tell exactly that.  Each
of the three steps keeps it, so it holds at every moment of every history, however loads
nest and whatever becomes of their failures.

The other half is that a module does run when nothing stands against it, one whose last
run failed in particular.  That is not a matter of single steps but of what comes right
after a load, and is proved along the recursion (`Heeds`).
-/
import ModuleLoader.Proofs.Evaluation.Steps

namespace ModuleLoader.Evaluation

variable {σ α : Type}

/-! ### Runs that are open and runs that succeeded -/

/-- Whether a run of the module begins. -/
def Event.isStart (u : String) : Event → Bool
  | .load _ _ _ => false
  | .start v => v = u
  | .finish _ _ => false

/-- Whether a run of the module ends, well or not. -/
def Event.isFinish (u : String) : Event → Bool
  | .load _ _ _ => false
  | .start _ => false
  | .finish v _ => v = u

/-- More runs of the module have begun than have ended. -/
def IsOpen (u : String) (past : List (Moment σ)) : Prop :=
  past.countP (·.event.isFinish u) < past.countP (·.event.isStart u)

/-- Some run of the module has ended well. -/
def HasSucceeded (u : String) (past : List (Moment σ)) : Prop :=
  ∃ m ∈ past, m.event = .finish u (.ok ())

theorem countP_start (past : List (Moment σ)) (m : Moment σ) (u : String) :
    (past ++ [m]).countP (·.event.isStart u) =
      past.countP (·.event.isStart u) + (m.event.isStart u).toNat := by
  rcases h : m.event.isStart u <;> simp [h]

theorem countP_finish (past : List (Moment σ)) (m : Moment σ) (u : String) :
    (past ++ [m]).countP (·.event.isFinish u) =
      past.countP (·.event.isFinish u) + (m.event.isFinish u).toNat := by
  rcases h : m.event.isFinish u <;> simp [h]

theorem count_uri (artifact : Artifact) (rest : List Artifact) (u : String) :
    ((artifact :: rest).map (·.uri)).count u
      = (rest.map (·.uri)).count u + (decide (artifact.uri = u)).toNat := by
  by_cases h : artifact.uri = u <;> simp [h]

theorem hasSucceeded_concat {u : String} {past : List (Moment σ)} {m : Moment σ} :
    HasSucceeded u (past ++ [m]) ↔ HasSucceeded u past ∨ m.event = .finish u (.ok ()) := by
  simp [HasSucceeded, or_and_right, exists_or]

/-! ### The stack and the notes tell the past -/

/-- What a state says of the past: which modules have succeeded, and which runs are open. -/
structure Agrees (past : List (Moment σ)) (state : Evaluation σ) : Prop where
  evaluated : ∀ u, state.isEvaluated u = true ↔ HasSucceeded u past
  /-- Every run that has begun has ended or stands on the stack. -/
  counts : ∀ u, past.countP (·.event.isStart u)
    = past.countP (·.event.isFinish u) + (state.stack.map (·.uri)).count u

namespace Agrees

variable {past : List (Moment σ)} {state : Evaluation σ}

theorem fresh (compile : CompileState σ) : Agrees [] ({ toCompileState := compile } : Evaluation σ) := by
  refine ⟨?_, ?_⟩
  · intro u
    simp [isEvaluated, HasSucceeded]
  · intro u
    simp

theorem of_quiet {next : Evaluation σ} (ok : Agrees past state) (hquiet : Quiet state next) :
    Agrees past next := by
  refine ⟨?_, ?_⟩
  · intro u
    rw [hquiet.isEvaluated, ok.evaluated]
  · intro u
    rw [hquiet.stack, ok.counts]

/-- A module is running exactly if a run of it is open. -/
theorem isRunning_iff (ok : Agrees past state) (u : String) :
    state.isRunning u = true ↔ IsOpen u past := by
  have hcounts := ok.counts u
  have hfalse : state.isRunning u = false ↔ (state.stack.map (·.uri)).count u = 0 :=
    isRunning_eq_false_iff.trans List.count_eq_zero.symm
  unfold IsOpen
  by_cases hrun : state.isRunning u = true
  · have hpos : (state.stack.map (·.uri)).count u ≠ 0 := fun h => by
      rw [hfalse.mpr h] at hrun
      cases hrun
    exact ⟨fun _ => by omega, fun _ => hrun⟩
  · have hzero := hfalse.mp (Bool.eq_false_iff.mpr hrun)
    exact ⟨fun h => absurd h hrun, fun h => by omega⟩

/-- Every step keeps the agreement. -/
theorem step {m : Moment σ} (ok : Agrees past state) (hstep : Step state m) :
    Agrees (past ++ [m]) m.state := by
  cases hstep with
  | load env specifier base next hquiet =>
      have ok' := ok.of_quiet hquiet
      refine ⟨?_, ?_⟩
      · intro u
        rw [hasSucceeded_concat]
        simpa using ok'.evaluated u
      · intro u
        rw [countP_start, countP_finish]
        exact ok'.counts u
  | start artifact resolved hquiet hnew hidle =>
      have ok' := ok.of_quiet hquiet
      refine ⟨?_, ?_⟩
      · intro u
        rw [hasSucceeded_concat]
        simpa using ok'.evaluated u
      · intro u
        have hcounts := ok'.counts u
        rw [countP_start, countP_finish, push_stack, count_uri]
        show _ + (decide (artifact.uri = u)).toNat = _ + 0 + _
        omega
  | finish artifact rest result next htop hstack hevaluated =>
      refine ⟨?_, ?_⟩
      · intro u
        rw [hasSucceeded_concat, hevaluated, ok.evaluated]
        simp only [Event.finish.injEq, eq_comm (a := u), and_comm]
      · intro u
        have hcounts := ok.counts u
        rw [htop, count_uri] at hcounts
        rw [countP_start, countP_finish, hstack]
        show _ + 0 = _ + (decide (artifact.uri = u)).toNat + _
        omega

/-- And so does a whole path. -/
theorem path {ms : List (Moment σ)} {last : Evaluation σ} (ok : Agrees past state)
    (hpath : Path state ms last) : Agrees (past ++ ms) last :=
  hpath.keeps (fun _ _ _ ok hquiet => ok.of_quiet hquiet) (fun _ _ _ ok hstep => ok.step hstep) ok

end Agrees

/-- Being asked for a module changes nothing that was told. -/
theorem Agrees.load {past : List (Moment σ)} {before state : Evaluation σ} {env : Environment}
    {specifier : String} {base : Option String} (ok : Agrees past before)
    (hstep : Step before ⟨.load env specifier base, state⟩) : Agrees past state := by
  cases hstep with
  | load _ _ _ _ hquiet => exact ok.of_quiet hquiet

/-- A run begins only if no run of the module is open and none has succeeded. -/
theorem Agrees.start {past : List (Moment σ)} {state : Evaluation σ} {m : Moment σ} {u : String}
    (ok : Agrees past state) (hstep : Step state m) (hstart : m.event = .start u) :
    ¬ IsOpen u past ∧ ¬ HasSucceeded u past := by
  cases hstep with
  | load env specifier base next hquiet => cases hstart
  | finish artifact rest result next htop hstack hevaluated => cases hstart
  | start artifact resolved hquiet hnew hidle =>
      obtain rfl := Event.start.inj hstart
      have ok' := ok.of_quiet hquiet
      refine ⟨?_, ?_⟩
      · rw [← ok'.isRunning_iff, hidle]
        exact Bool.false_ne_true
      · rw [← ok'.evaluated, hnew]
        exact Bool.false_ne_true

/-! ### What comes right after a load -/

/-- The first thing that happens is that a run of the module begins. -/
def Begins (u : String) (history : List (Moment σ)) : Prop :=
  ∃ state later, history = ⟨.start u, state⟩ :: later

/-- After each load a module begins to run if and only if one is due. -/
def Heeds (host : Host σ) : List (Moment σ) → Prop
  | [] => True
  | m :: later =>
    (∀ env specifier base, m.event = .load env specifier base → ∀ u, Begins u later ↔
      ∃ runtime found, found.artifact.uri = u ∧
        due? env host specifier (resolve env host m.state specifier base) = some (runtime, found))
    ∧ Heeds host later

theorem Begins.append {u : String} {xs ys : List (Moment σ)} (hys : ¬ Begins u ys) :
    Begins u (xs ++ ys) ↔ Begins u xs := by
  cases xs with
  | nil => exact ⟨fun h => absurd h hys, fun ⟨_, _, h⟩ => by cases h⟩
  | cons m xs =>
      constructor
      · rintro ⟨state, later, h⟩
        obtain ⟨rfl, -⟩ := List.cons.inj h
        exact ⟨state, xs, rfl⟩
      · rintro ⟨state, later, h⟩
        obtain ⟨rfl, -⟩ := List.cons.inj h
        exact ⟨state, xs ++ ys, rfl⟩

theorem Heeds.append {host : Host σ} {xs ys : List (Moment σ)} (hx : Heeds host xs)
    (hy : Heeds host ys) (hbegin : ∀ u, ¬ Begins u ys) : Heeds host (xs ++ ys) := by
  induction xs with
  | nil => exact hy
  | cons m xs ih =>
      refine ⟨?_, ih hx.2⟩
      intro env specifier base hload u
      exact (Begins.append (hbegin u)).trans (hx.1 env specifier base hload u)

theorem Heeds.at {host : Host σ} {past later : List (Moment σ)} {m : Moment σ}
    (h : Heeds host (past ++ m :: later)) : Heeds host (m :: later) := by
  induction past with
  | nil => exact h
  | cons _ past ih => exact ih h.2

/-- Loads are heeded, and no run begins before one. -/
structure Orderly (host : Host σ) (x : Observed σ α) : Prop where
  heeds : Heeds host x.history
  unbegun : ∀ u, ¬ Begins u x.history

theorem orderly_pure (host : Host σ) (a : α) : Orderly host (.pure a : Observed σ α) :=
  ⟨trivial, by rintro u ⟨state, later, h⟩; cases h⟩

theorem Orderly.andThen {β : Type} {host : Host σ} {x : Observed σ α} {f : α → Observed σ β}
    (hx : Orderly host x) (hf : ∀ a, Orderly host (f a)) : Orderly host (x.andThen f) := by
  unfold Observed.andThen
  rcases x.result with _ | a
  · exact ⟨hx.heeds, hx.unbegun⟩
  · refine ⟨hx.heeds.append (hf a).heeds (hf a).unbegun, ?_⟩
    intro u
    show ¬ Begins u (x.history ++ (f a).history)
    rw [Begins.append ((hf a).unbegun u)]
    exact hx.unbegun u

theorem orderly_perform {host : Host σ} {load : ObservedLoad σ}
    (hload : ∀ state specifier base, Orderly host (load state specifier base))
    (r : RuntimeRun σ) : ∀ state : Evaluation σ, Orderly host (performObserved load r state) := by
  induction r with
  | finish last result => intro state; exact orderly_pure host _
  | load last specifier base next ih =>
      intro state
      exact (hload _ specifier base).andThen fun answered => ih _ _ answered.2

/-- The run of a module begins with its beginning, and heeds the loads in it. -/
theorem heeds_execute {host : Host σ} {load : ObservedLoad σ}
    (hload : ∀ state specifier base, Orderly host (load state specifier base))
    (runtime : Runtime σ) (state : Evaluation σ) (specifier : String) (found : Found) :
    ∃ running later, Heeds host later ∧
      (executeObserved load runtime state specifier found).history
        = ⟨.start found.artifact.uri, running⟩ :: later := by
  refine ⟨_, _, ?_, rfl⟩
  refine ((orderly_perform hload _ _).andThen ?_).heeds
  intro ended
  refine ⟨⟨?_, trivial⟩, ?_⟩
  · intro env s b h
    cases h
  · rintro u ⟨running, later, h⟩
    cases h

section Loads

variable {env : Environment} {host : Host σ} {state : Evaluation σ} {specifier : String}
  {base : Option String}

/-- A load that runs nothing is heeded. -/
theorem orderly_idle
    (h : due? env host specifier (resolve env host state specifier base) = none) (a : α) :
    Orderly host (.after ⟨.load env specifier base, state⟩ (.pure a)) := by
  refine ⟨⟨?_, trivial⟩, ?_⟩
  · rintro env' s b hload u
    obtain ⟨rfl, rfl, rfl⟩ := Event.load.inj hload
    refine ⟨?_, ?_⟩
    · rintro ⟨running, later, hbegin⟩
      cases hbegin
    · rintro ⟨runtime, found, -, hdue⟩
      rw [h] at hdue
      cases hdue
  · rintro u ⟨running, later, hbegin⟩
    cases hbegin

/-- A load is heeded if the module that is due is what begins to run. -/
theorem orderly_due {runtime : Runtime σ} {found : Found} {x : Observed σ α}
    {running : Evaluation σ} {later : List (Moment σ)}
    (h : due? env host specifier (resolve env host state specifier base) = some (runtime, found))
    (hx : x.history = ⟨.start found.artifact.uri, running⟩ :: later) (hlater : Heeds host later) :
    Orderly host (.after ⟨.load env specifier base, state⟩ x) := by
  refine ⟨⟨?_, ?_⟩, ?_⟩
  · rintro env' s b hload u
    obtain ⟨rfl, rfl, rfl⟩ := Event.load.inj hload
    rw [hx]
    refine ⟨?_, ?_⟩
    · rintro ⟨running', later', hbegin⟩
      obtain ⟨hm, -⟩ := List.cons.inj hbegin
      exact ⟨runtime, found, Event.start.inj (congrArg Moment.event hm), h⟩
    · rintro ⟨runtime', found', rfl, hdue⟩
      obtain ⟨rfl, rfl⟩ := Prod.mk.inj (Option.some.inj (h.symm.trans hdue))
      exact ⟨running, later, rfl⟩
  · rw [hx]
    refine ⟨?_, hlater⟩
    intro env' s b hload
    cases hload
  · rintro u ⟨running', later', hbegin⟩
    cases hbegin

end Loads

theorem orderly_observe (env : Environment) (host : Host σ) :
    ∀ (limit : Nat) (state : Evaluation σ) (specifier : String) (base : Option String),
      Orderly host (observe env host limit state specifier base) := by
  intro limit
  induction limit with
  | zero =>
      intro state specifier base
      rcases h : due? env host specifier (resolve env host state specifier base)
        with _ | ⟨runtime, found⟩
      · rw [observe_idle h]
        exact orderly_idle h _
      · rw [observe_zero_due h]
        exact orderly_due h rfl trivial
  | succ limit ih =>
      intro state specifier base
      rcases h : due? env host specifier (resolve env host state specifier base)
        with _ | ⟨runtime, found⟩
      · rw [observe_idle h]
        exact orderly_idle h _
      · rw [observe_succ_due h]
        obtain ⟨running, later, hlater, hhistory⟩ :=
          heeds_execute ih runtime (resolve env host state specifier base).2 specifier found
        exact orderly_due h hhistory hlater

theorem orderly_observeAll (host : Host σ) (limit : Nat) (calls : List Call) :
    ∀ state : Evaluation σ, Orderly host (observeAll host limit calls state) := by
  induction calls with
  | nil => intro state; exact orderly_pure host _
  | cons call rest ih =>
      intro state
      refine (orderly_observe call.env host limit state call.specifier call.base).andThen ?_
      intro answered
      exact (ih answered.2).andThen fun others => orderly_pure host _

/-! ### Every module runs once -/

/-- A module that is found is to be run: the host runs modules, it is asked for in compiled
form, no run of it is open and none has succeeded. -/
structure Wanted (env : Environment) (host : Host σ) (specifier u : String)
    (past : List (Moment σ)) : Prop where
  runtime : host.runtime.isSome = true
  compiled : env.settings.convention.kindOf specifier = .compiled
  idle : ¬ IsOpen u past
  new : ¬ HasSucceeded u past

/-- The module that is found is due if and only if it is wanted. -/
theorem Agrees.due {env : Environment} {host : Host σ} {specifier : String}
    {base : Option String} {past : List (Moment σ)} {state : Evaluation σ} {found : Found}
    (ok : Agrees past state)
    (hfound : (resolve env host state specifier base).1 = .ok (some found)) :
    (∃ runtime found', found'.artifact.uri = found.artifact.uri ∧
      due? env host specifier (resolve env host state specifier base) = some (runtime, found')) ↔
      Wanted env host specifier found.artifact.uri past := by
  have ok' := ok.of_quiet (quiet_resolve env host state specifier base)
  constructor
  · rintro ⟨runtime, found', heq, hdue⟩
    obtain ⟨-, hruntime, hkind, hnew, hidle⟩ := due?_eq_some_iff.mp hdue
    rw [heq] at hnew hidle
    refine ⟨by rw [hruntime]; rfl, hkind, ?_, ?_⟩
    · rw [← ok'.isRunning_iff, hidle]
      exact Bool.false_ne_true
    · rw [← ok'.evaluated, hnew]
      exact Bool.false_ne_true
  · intro hwanted
    obtain ⟨runtime, hruntime⟩ := Option.isSome_iff_exists.mp hwanted.runtime
    refine ⟨runtime, found, rfl, due?_eq_some_iff.mpr ⟨hfound, hruntime, hwanted.compiled, ?_, ?_⟩⟩
    · rw [← Bool.not_eq_true, ok'.evaluated]
      exact hwanted.new
    · rw [← Bool.not_eq_true, ok'.isRunning_iff]
      exact hwanted.idle

/-- What holds of everything that happens in the course of some loads. -/
structure RunsOnce (host : Host σ) (seen : Observed σ (α × Evaluation σ)) : Prop where
  /-- No run of a module begins while another is open or after one has ended well. -/
  once : ∀ past m later u, seen.history = past ++ m :: later → m.event = .start u →
    ¬ IsOpen u past ∧ ¬ HasSucceeded u past
  /-- At every moment a module counts as having run if and only if some run of it has ended
  well. -/
  evaluated : ∀ past m later u, seen.history = past ++ m :: later →
    (m.state.isEvaluated u = true ↔ HasSucceeded u (past ++ [m]))
  /-- At every moment a module counts as running if and only if a run of it is open. -/
  running : ∀ past m later u, seen.history = past ++ m :: later →
    (m.state.isRunning u = true ↔ IsOpen u (past ++ [m]))
  /-- A load that finds a module runs it at once, whatever became of its earlier runs, unless
  one of them is open or has ended well. -/
  runs : ∀ past env specifier base state later found,
    seen.history = past ++ ⟨.load env specifier base, state⟩ :: later →
    (resolve env host state specifier base).1 = .ok (some found) →
    (Begins found.artifact.uri later ↔ Wanted env host specifier found.artifact.uri past)
  /-- A load that finds nothing runs nothing. -/
  rests : ∀ past env specifier base state later,
    seen.history = past ++ ⟨.load env specifier base, state⟩ :: later →
    (∀ found, (resolve env host state specifier base).1 ≠ .ok (some found)) →
    ∀ u, ¬ Begins u later
  /-- Afterwards nothing is running, and a module counts as having run if and only if some run
  of it has ended well. -/
  ended : ∀ a last, seen.result = some (a, last) →
    last.stack = [] ∧ ∀ u, last.isEvaluated u = true ↔ HasSucceeded u seen.history

theorem RunsOnce.of_tracks {host : Host σ} {seen : Observed σ (α × Evaluation σ)}
    {state : Evaluation σ} (hempty : state.stack = []) (ok : Agrees [] state)
    (htracks : Tracks state seen) (horderly : Orderly host seen) : RunsOnce host seen := by
  obtain ⟨last, hpath⟩ := htracks.path
  have hsplit : ∀ past m later, seen.history = past ++ m :: later →
      ∃ before, Agrees past before ∧ Step before m := by
    intro past m later h
    obtain ⟨before, hbefore, hm⟩ := hpath.split h
    have hagrees := ok.path hbefore
    exact ⟨before, hagrees, hm⟩
  refine ⟨?_, ?_, ?_, ?_, ?_, ?_⟩
  · intro past m later u h hstart
    obtain ⟨before, hbefore, hm⟩ := hsplit past m later h
    exact hbefore.start hm hstart
  · intro past m later u h
    obtain ⟨before, hbefore, hm⟩ := hsplit past m later h
    exact (hbefore.step hm).evaluated u
  · intro past m later u h
    obtain ⟨before, hbefore, hm⟩ := hsplit past m later h
    exact (hbefore.step hm).isRunning_iff u
  · intro past env specifier base state later found h hfound
    obtain ⟨before, hbefore, hm⟩ := hsplit past _ later h
    have hheeds := horderly.heeds
    rw [h] at hheeds
    refine (hheeds.at.1 env specifier base rfl _).trans ?_
    exact (hbefore.load hm).due hfound
  · intro past env specifier base state later h hnone u
    have hheeds := horderly.heeds
    rw [h] at hheeds
    rw [hheeds.at.1 env specifier base rfl u]
    rintro ⟨runtime, found, -, hdue⟩
    exact hnone found (due?_eq_some_iff.mp hdue).1
  · intro a last h
    obtain ⟨hpath, hstack⟩ := htracks.result a last h
    exact ⟨hstack.trans hempty, (ok.path hpath).evaluated⟩

/-- **Every module runs once.**  However many loads there are, whatever the host does in them,
and however they nest and fail: no module begins to run while it is running or after it has
run well, and every other module that is found does. -/
theorem loadAll_runsOnce (host : Host σ) (limit : Nat) (calls : List Call)
    (compile : CompileState σ) :
    let start : Evaluation σ := { toCompileState := compile }
    (observeAll host limit calls start).result = loadAll host limit calls start ∧
      RunsOnce host (observeAll host limit calls start) := by
  intro start
  refine ⟨observeAll_result host limit calls start, ?_⟩
  exact .of_tracks rfl (.fresh compile) (tracks_observeAll host limit calls start)
    (orderly_observeAll host limit calls start)

end ModuleLoader.Evaluation
