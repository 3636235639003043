/-
Invariants of loads.

A load changes the state of the loader in four ways: a module is looked for, a module that
is due is put on the stack, its runtime leaves the host in another state, and in the end
the module is taken off again.  What all four keep holds at every moment, as long as every
runtime that comes to run loads only what the invariant is prepared for (`observe_keeps`).
-/
import ModuleLoader.Proofs.Evaluation.History

namespace ModuleLoader

variable {σ : Type}

/-- The run loads only such modules. -/
def RuntimeRun.Confined (W : String → Option String → Prop) : RuntimeRun σ → Prop
  | .finish _ _ => True
  | .load _ specifier base next =>
    W specifier base ∧ ∀ host answer, (next host answer).Confined W

namespace Evaluation

/-- What is kept, and kept prepared for all loads of some kind. -/
structure Invariant (env : Environment) (host : Host σ) (W : String → Option String → Prop)
    (I : Evaluation σ → Prop) : Prop where
  resolved : ∀ {state specifier base}, I state → W specifier base →
    I (resolve env host state specifier base).2
  pushed : ∀ {state specifier base runtime found}, I state → W specifier base →
    due? env host specifier (resolve env host state specifier base) = some (runtime, found) →
    I ((resolve env host state specifier base).2.push found.artifact)
  confined : ∀ {state specifier base runtime found}, I state → W specifier base →
    due? env host specifier (resolve env host state specifier base) = some (runtime, found) →
    ∀ inner stack, (runtime inner found.artifact stack).Confined W
  moved : ∀ {state} inner, I state → I { state with host := inner }
  left : ∀ {state} depth specifier found result, I state →
    I (leave depth specifier found result state).2

/-- The property holds at every moment, and of the state that comes of it. -/
structure Keeps {α : Type} (I : Evaluation σ → Prop) (x : Observed σ (α × Evaluation σ)) :
    Prop where
  history : ∀ m ∈ x.history, I m.state
  result : ∀ a last, x.result = some (a, last) → I last

namespace Keeps

variable {α β : Type} {I : Evaluation σ → Prop}

theorem pure {state : Evaluation σ} (h : I state) (a : α) : Keeps I (.pure (a, state)) := by
  refine ⟨?_, ?_⟩
  · intro m hm
    cases hm
  · intro b last hresult
    cases hresult
    exact h

theorem after {m : Moment σ} {x : Observed σ (α × Evaluation σ)} (hm : I m.state)
    (hx : Keeps I x) : Keeps I (.after m x) := by
  refine ⟨?_, hx.result⟩
  intro n hn
  rcases List.mem_cons.mp hn with rfl | hn
  · exact hm
  · exact hx.history n hn

theorem andThen {x : Observed σ (α × Evaluation σ)}
    {f : α × Evaluation σ → Observed σ (β × Evaluation σ)} (hx : Keeps I x)
    (hf : ∀ a state, I state → Keeps I (f (a, state))) : Keeps I (x.andThen f) := by
  unfold Observed.andThen
  rcases hr : x.result with _ | ⟨a, state⟩
  · exact ⟨hx.history, by intro b last h; cases h⟩
  · have hrest := hf a state (hx.result a state hr)
    refine ⟨?_, hrest.result⟩
    intro m hm
    rcases List.mem_append.mp hm with hm | hm
    · exact hx.history m hm
    · exact hrest.history m hm

end Keeps

section Loads

variable {env : Environment} {host : Host σ} {W : String → Option String → Prop}
  {I : Evaluation σ → Prop} {load : ObservedLoad σ}

theorem perform_keeps (inv : Invariant env host W I)
    (hload : ∀ state specifier base, I state → W specifier base →
      Keeps I (load state specifier base)) {r : RuntimeRun σ} :
    r.Confined W → ∀ {state : Evaluation σ}, I state → Keeps I (performObserved load r state) := by
  induction r with
  | finish inner result =>
      intro _ state hstate
      exact .pure (inv.moved inner hstate) result
  | load inner specifier base next ih =>
      rintro ⟨hask, hnext⟩ state hstate
      refine (hload _ specifier base (inv.moved inner hstate) hask).andThen ?_
      intro answer after hafter
      exact ih after.host answer (hnext after.host answer) hafter

theorem execute_keeps (inv : Invariant env host W I)
    (hload : ∀ state specifier base, I state → W specifier base →
      Keeps I (load state specifier base)) {runtime : Runtime σ} {state : Evaluation σ}
    (specifier : String) {found : Found} (hstate : I (state.push found.artifact))
    (hconfined : ∀ inner stack, (runtime inner found.artifact stack).Confined W) :
    Keeps I (executeObserved load runtime state specifier found) := by
  refine Keeps.after hstate ((perform_keeps inv hload (hconfined _ _) hstate).andThen ?_)
  intro result ended hended
  have hleft := inv.left state.depth specifier found result hended
  refine ⟨?_, ?_⟩
  · intro m hm
    rw [List.mem_singleton.mp hm]
    exact hleft
  · intro a last hlast
    obtain rfl : _ = last := congrArg Prod.snd (Option.some.inj hlast)
    exact hleft

/-- **What is invariant holds at every moment of a load, and of the state it leaves.** -/
theorem observe_keeps (inv : Invariant env host W I) :
    ∀ (limit : Nat) (state : Evaluation σ) (specifier : String) (base : Option String),
      I state → W specifier base → Keeps I (observe env host limit state specifier base) := by
  intro limit
  induction limit with
  | zero =>
      intro state specifier base hstate hask
      rcases h : due? env host specifier (resolve env host state specifier base)
        with _ | ⟨runtime, found⟩
      · rw [observe_idle h]
        exact .after hstate (.pure (inv.resolved hstate hask) _)
      · rw [observe_zero_due h]
        refine .after hstate ⟨?_, by intro a last hlast; cases hlast⟩
        intro m hm
        rw [List.mem_singleton.mp hm]
        exact inv.pushed hstate hask h
  | succ limit ih =>
      intro state specifier base hstate hask
      rcases h : due? env host specifier (resolve env host state specifier base)
        with _ | ⟨runtime, found⟩
      · rw [observe_idle h]
        exact .after hstate (.pure (inv.resolved hstate hask) _)
      · rw [observe_succ_due h]
        exact .after hstate (execute_keeps inv ih specifier (inv.pushed hstate hask h)
          (inv.confined hstate hask h))

/-- What is invariant under the loads of all calls holds at every moment of them. -/
theorem observeAll_keeps {limit : Nat} {calls : List Call}
    (inv : ∀ call ∈ calls, Invariant call.env host W I)
    (hask : ∀ call ∈ calls, W call.specifier call.base) :
    ∀ {state : Evaluation σ}, I state → Keeps I (observeAll host limit calls state) := by
  induction calls with
  | nil => intro state hstate; exact .pure hstate _
  | cons call rest ih =>
      intro state hstate
      refine (observe_keeps (inv call List.mem_cons_self) limit state call.specifier call.base hstate
        (hask call List.mem_cons_self)).andThen ?_
      intro outcome after hafter
      refine (ih (fun other hother => inv other (List.mem_cons_of_mem _ hother))
        (fun other hother => hask other (List.mem_cons_of_mem _ hother)) hafter).andThen ?_
      exact fun outcomes last hlast => .pure hlast _

end Loads

end Evaluation

end ModuleLoader
