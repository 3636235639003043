/-
Histories from their end.

A path of steps says what can happen next and leaves open what is found and compiled on the way.
A trail says all of it: a history comes about by looking for a module, by running the one that is
due, and by leaving it again, and the state after it is the one that this makes of the state
before.  So what holds of a history and the state after it can be proved by induction on the
last thing that has happened, with the search that has come before a run at hand.
-/
import ModuleLoader.Proofs.Evaluation.History

namespace ModuleLoader.Evaluation

variable {σ α : Type} {env : Environment} {host : Host σ} {start : Evaluation σ}

/-- A history in one environment, and the state after it. -/
inductive Trail (env : Environment) (host : Host σ) (start : Evaluation σ) :
    List (Moment σ) → Evaluation σ → Prop
  | here : Trail env host start [] start
  /-- The state of the host changes. -/
  | moved {past : List (Moment σ)} {state : Evaluation σ} (inner : σ)
      (h : Trail env host start past state) : Trail env host start past { state with host := inner }
  /-- A module is looked for. -/
  | resolved {past : List (Moment σ)} {state : Evaluation σ} (specifier : String)
      (base : Option String) (h : Trail env host start past state) :
      Trail env host start (past ++ [⟨.load env specifier base, state⟩])
        (resolve env host state specifier base).2
  /-- A module is looked for, and begins to run. -/
  | began {past : List (Moment σ)} {state : Evaluation σ} (specifier : String)
      (base : Option String) {runtime : Runtime σ} {found : Found}
      (h : Trail env host start past state)
      (hdue : due? env host specifier (resolve env host state specifier base)
        = some (runtime, found)) :
      Trail env host start
        (past ++ [⟨.load env specifier base, state⟩] ++ [⟨.start found.artifact.uri,
          (resolve env host state specifier base).2.push found.artifact⟩])
        ((resolve env host state specifier base).2.push found.artifact)
  /-- A module is left. -/
  | left {past : List (Moment σ)} {state : Evaluation σ} (depth : Nat) (specifier : String)
      (found : Found) (result : Except String Unit) (h : Trail env host start past state) :
      Trail env host start
        (past ++ [⟨.finish found.artifact.uri result, (leave depth specifier found result state).2⟩])
        (leave depth specifier found result state).2

/-- What is observed goes on with a trail. -/
structure Follows (env : Environment) (host : Host σ) (start : Evaluation σ)
    (past : List (Moment σ)) (x : Observed σ (α × Evaluation σ)) : Prop where
  trail : ∃ last, Trail env host start (past ++ x.history) last
  result : ∀ a last, x.result = some (a, last) → Trail env host start (past ++ x.history) last

namespace Follows

variable {past : List (Moment σ)}

theorem pure {state : Evaluation σ} (h : Trail env host start past state) (a : α) :
    Follows env host start past (.pure (a, state)) := by
  have hpast : Trail env host start (past ++ []) state := by
    rw [List.append_nil]
    exact h
  refine ⟨⟨state, hpast⟩, ?_⟩
  intro b last hlast
  cases hlast
  exact hpast

theorem after {m : Moment σ} {x : Observed σ (α × Evaluation σ)}
    (h : Follows env host start (past ++ [m]) x) : Follows env host start past (.after m x) := by
  have hhistory : past ++ (Observed.after m x).history = past ++ [m] ++ x.history :=
    List.append_cons past m x.history
  refine ⟨?_, ?_⟩
  · rw [hhistory]
    exact h.trail
  · rw [hhistory]
    exact h.result

theorem andThen {β : Type} {x : Observed σ (α × Evaluation σ)}
    {f : α × Evaluation σ → Observed σ (β × Evaluation σ)} (hx : Follows env host start past x)
    (hf : ∀ a state past, Trail env host start past state →
      Follows env host start past (f (a, state))) :
    Follows env host start past (x.andThen f) := by
  unfold Observed.andThen
  rcases hr : x.result with _ | ⟨a, state⟩
  · exact ⟨hx.trail, by intro b last h; cases h⟩
  · have hrest := hf a state _ (hx.result a state hr)
    refine ⟨?_, ?_⟩
    · obtain ⟨last, hlast⟩ := hrest.trail
      rw [List.append_assoc] at hlast
      exact ⟨last, hlast⟩
    · intro b last h
      have hlast := hrest.result b last h
      rwa [List.append_assoc] at hlast

end Follows

theorem perform_follows {load : ObservedLoad σ}
    (hload : ∀ past state specifier base, Trail env host start past state →
      Follows env host start past (load state specifier base)) (r : RuntimeRun σ) :
    ∀ past state, Trail env host start past state →
      Follows env host start past (performObserved load r state) := by
  induction r with
  | finish inner result =>
      intro past state h
      exact .pure (h.moved inner) result
  | load inner specifier base next ih =>
      intro past state h
      refine (hload past _ specifier base (h.moved inner)).andThen ?_
      intro answer after past' hafter
      exact ih after.host answer past' after hafter

/-- **What is observed of a load goes on with a trail.** -/
theorem observe_follows (env : Environment) (host : Host σ) (start : Evaluation σ) :
    ∀ (limit : Nat) (past : List (Moment σ)) (state : Evaluation σ) (specifier : String)
      (base : Option String), Trail env host start past state →
      Follows env host start past (observe env host limit state specifier base) := by
  intro limit
  induction limit with
  | zero =>
      intro past state specifier base h
      rcases hdue : due? env host specifier (resolve env host state specifier base)
        with _ | ⟨runtime, found⟩
      · rw [observe_idle hdue]
        exact .after (.pure (h.resolved specifier base) _)
      · rw [observe_zero_due hdue]
        refine .after ⟨⟨_, h.began specifier base hdue⟩, ?_⟩
        intro a last hlast
        cases hlast
  | succ limit ih =>
      intro past state specifier base h
      rcases hdue : due? env host specifier (resolve env host state specifier base)
        with _ | ⟨runtime, found⟩
      · rw [observe_idle hdue]
        exact .after (.pure (h.resolved specifier base) _)
      · rw [observe_succ_due hdue]
        refine .after (.after ?_)
        refine (perform_follows ih _ _ _ (h.began specifier base hdue)).andThen ?_
        intro result ended past' hended
        have hleft := hended.left (resolve env host state specifier base).2.depth specifier found result
        refine ⟨⟨_, hleft⟩, ?_⟩
        intro a last hlast
        obtain rfl : _ = last := congrArg Prod.snd (Option.some.inj hlast)
        exact hleft

/-- **What is observed of calls in one environment is a trail.** -/
theorem observeAll_follows (host : Host σ) (start : Evaluation σ) (limit : Nat) {calls : List Call}
    (henv : ∀ call ∈ calls, call.env = env) :
    ∀ past state, Trail env host start past state →
      Follows env host start past (observeAll host limit calls state) := by
  induction calls with
  | nil =>
      intro past state h
      exact .pure h []
  | cons call rest ih =>
      intro past state h
      obtain rfl := henv call List.mem_cons_self
      refine (observe_follows call.env host start limit past state call.specifier call.base h).andThen ?_
      intro outcome after past' hafter
      refine (ih (fun other hother => henv other (List.mem_cons_of_mem _ hother)) past' after hafter
        ).andThen ?_
      intro outcomes last past'' hlast
      exact .pure hlast (outcome :: outcomes)

end ModuleLoader.Evaluation
