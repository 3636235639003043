/-
When loads come to an end.

Nothing but a module that runs keeps a load from ending, and nothing but the guard keeps
modules from running each other for ever: a module that stands on the stack does not begin
to run again.  The guard goes by identities.  So the stack never holds more modules than
there are identities under which modules begin to run, and a load ends as soon as there are
finitely many of them.  `finishes_iff` says that it ends in no other case.

A load finishes if it has a result at some limit.  More room changes nothing where there was
enough (`observe_extends`), so what happens at that limit is all that ever happens.  In the
other direction a limit that is too small is reached: some moment lies that deep
(`observe_deep`).
-/
import ModuleLoader.Proofs.Evaluation.Steps

namespace ModuleLoader.Evaluation

variable {σ α β : Type}

/-- The module that begins to run. -/
def Event.started? : Event → Option String
  | .load _ _ _ => none
  | .start u => some u
  | .finish _ _ => none

/-! ### More room changes nothing where there was enough -/

/-- What happens in `y` begins as in `x`, and is the same if `x` has a result. -/
structure Extends (x y : Observed σ α) : Prop where
  history : x.history <+: y.history
  result : ∀ a, x.result = some a → y = x

namespace Extends

variable {x y z : Observed σ α}

theorem refl (x : Observed σ α) : Extends x x := ⟨List.prefix_refl _, fun _ _ => rfl⟩

theorem trans (h₁ : Extends x y) (h₂ : Extends y z) : Extends x z := by
  refine ⟨h₁.history.trans h₂.history, ?_⟩
  intro a hx
  have hy := h₁.result a hx
  rw [h₂.result a (by rw [hy, hx]), hy]

theorem after (m : Moment σ) (h : Extends x y) : Extends (.after m x) (.after m y) := by
  refine ⟨List.cons_prefix_cons.mpr ⟨rfl, h.history⟩, ?_⟩
  intro a hx
  rw [h.result a hx]

theorem andThen {f g : α → Observed σ β} (h : Extends x y) (hf : ∀ a, Extends (f a) (g a)) :
    Extends (x.andThen f) (y.andThen g) := by
  rcases hx : x.result with _ | a
  · unfold Observed.andThen
    rw [hx]
    refine ⟨?_, by intro b hb; cases hb⟩
    rcases y.result with _ | b
    · exact h.history
    · exact h.history.trans (List.prefix_append _ _)
  · rw [h.result a hx]
    unfold Observed.andThen
    rw [hx]
    refine ⟨(List.prefix_append_right_inj _).mpr (hf a).history, ?_⟩
    intro b hb
    have hg := (hf a).result b hb
    simp only [hg]

end Extends

theorem perform_extends {load load' : ObservedLoad σ}
    (h : ∀ state specifier base, Extends (load state specifier base) (load' state specifier base))
    (r : RuntimeRun σ) :
    ∀ state : Evaluation σ, Extends (performObserved load r state) (performObserved load' r state) := by
  induction r with
  | finish host result => intro state; exact .refl _
  | load host specifier base next ih =>
      intro state
      exact (h _ specifier base).andThen fun answered => ih _ _ answered.2

theorem execute_extends {load load' : ObservedLoad σ}
    (h : ∀ state specifier base, Extends (load state specifier base) (load' state specifier base))
    (runtime : Runtime σ) (state : Evaluation σ) (specifier : String) (found : Found) :
    Extends (executeObserved load runtime state specifier found)
      (executeObserved load' runtime state specifier found) :=
  ((perform_extends h _ _).andThen fun _ => .refl _).after _

theorem observe_extends_succ (env : Environment) (host : Host σ) :
    ∀ (limit : Nat) (state : Evaluation σ) (specifier : String) (base : Option String),
      Extends (observe env host limit state specifier base)
        (observe env host (limit + 1) state specifier base) := by
  intro limit
  induction limit with
  | zero =>
      intro state specifier base
      rcases h : due? env host specifier (resolve env host state specifier base)
        with _ | ⟨runtime, found⟩
      · rw [observe_idle h, observe_idle h]
        exact .refl _
      · rw [observe_zero_due h, observe_succ_due h]
        refine Extends.after _ ⟨?_, by intro a ha; cases ha⟩
        exact List.cons_prefix_cons.mpr ⟨rfl, List.nil_prefix⟩
  | succ limit ih =>
      intro state specifier base
      rcases h : due? env host specifier (resolve env host state specifier base)
        with _ | ⟨runtime, found⟩
      · rw [observe_idle h, observe_idle h]
        exact .refl _
      · rw [observe_succ_due h, observe_succ_due h]
        exact (execute_extends ih runtime _ specifier found).after _

theorem observe_extends (env : Environment) (host : Host σ) {limit larger : Nat}
    (hle : limit ≤ larger) (state : Evaluation σ) (specifier : String) (base : Option String) :
    Extends (observe env host limit state specifier base)
      (observe env host larger state specifier base) := by
  induction hle with
  | refl => exact .refl _
  | step _ ih => exact ih.trans (observe_extends_succ env host _ state specifier base)

/-! ### A limit that is too small is reached -/

/-- Without a result, some moment lies `k` deeper than the state. -/
def Deep (k : Nat) (state : Evaluation σ) (x : Observed σ α) : Prop :=
  x.result = none → ∃ m ∈ x.history, state.depth + k ≤ m.state.depth

theorem depth_of_stack {s t : Evaluation σ} (h : t.stack = s.stack) : t.depth = s.depth := by
  unfold depth
  rw [h]

theorem perform_deep {load : ObservedLoad σ} {k : Nat}
    (htracks : ∀ state specifier base, Tracks state (load state specifier base))
    (hdeep : ∀ state specifier base, Deep k state (load state specifier base))
    (r : RuntimeRun σ) : ∀ state : Evaluation σ, Deep k state (performObserved load r state) := by
  induction r with
  | finish host result => intro state h; cases h
  | load host specifier base next ih =>
      intro state
      unfold performObserved Observed.andThen
      rcases hr : (load { state with host := host } specifier base).result with _ | ⟨answer, next'⟩
      · intro _
        exact hdeep { state with host := host } specifier base hr
      · intro hnone
        obtain ⟨-, hstack⟩ := (htracks { state with host := host } specifier base).result _ _ hr
        obtain ⟨m, hm, hle⟩ := ih next'.host answer next' hnone
        refine ⟨m, List.mem_append_right _ hm, ?_⟩
        rwa [depth_of_stack hstack] at hle

theorem execute_deep {load : ObservedLoad σ} {k : Nat}
    (htracks : ∀ state specifier base, Tracks state (load state specifier base))
    (hdeep : ∀ state specifier base, Deep k state (load state specifier base))
    (runtime : Runtime σ) (state : Evaluation σ) (specifier : String) (found : Found) :
    Deep (k + 1) state (executeObserved load runtime state specifier found) := by
  have hrun := perform_deep htracks hdeep
    (runtime (state.push found.artifact).host found.artifact (state.push found.artifact).stack)
    (state.push found.artifact)
  have hpush : (state.push found.artifact).depth = state.depth + 1 := rfl
  unfold executeObserved Observed.after Observed.andThen
  simp only
  rcases hr : (performObserved load (runtime (state.push found.artifact).host found.artifact
    (state.push found.artifact).stack) (state.push found.artifact)).result with _ | ended
  · intro _
    obtain ⟨m, hm, hle⟩ := hrun hr
    exact ⟨m, List.mem_cons_of_mem _ hm, by omega⟩
  · intro hnone
    cases hnone

theorem observe_deep (env : Environment) (host : Host σ) :
    ∀ (limit : Nat) (state : Evaluation σ) (specifier : String) (base : Option String),
      Deep (limit + 1) state (observe env host limit state specifier base) := by
  intro limit
  induction limit with
  | zero =>
      intro state specifier base
      rcases h : due? env host specifier (resolve env host state specifier base)
        with _ | ⟨runtime, found⟩
      · rw [observe_idle h]
        intro hnone
        cases hnone
      · rw [observe_zero_due h]
        intro _
        exact ⟨_, List.mem_cons_of_mem _ List.mem_cons_self, Nat.le_refl _⟩
  | succ limit ih =>
      intro state specifier base
      rcases h : due? env host specifier (resolve env host state specifier base)
        with _ | ⟨runtime, found⟩
      · rw [observe_idle h]
        intro hnone
        cases hnone
      · rw [observe_succ_due h]
        intro hnone
        obtain ⟨m, hm, hle⟩ := execute_deep (tracks_observe env host limit) ih runtime
          (resolve env host state specifier base).2 specifier found hnone
        exact ⟨m, List.mem_cons_of_mem _ hm, hle⟩

/-! ### The stack holds different identities -/

/-- The modules on the stack have different identities, and a run of each has begun. -/
structure Stacked (past : List (Moment σ)) (state : Evaluation σ) : Prop where
  nodup : (state.stack.map (·.uri)).Nodup
  begun : ∀ u ∈ state.stack.map (·.uri), ∃ m ∈ past, m.event = .start u

namespace Stacked

variable {past : List (Moment σ)} {state : Evaluation σ}

theorem of_quiet {next : Evaluation σ} (ok : Stacked past state) (hquiet : Quiet state next) :
    Stacked past next := by
  refine ⟨?_, ?_⟩
  · rw [hquiet.stack]
    exact ok.nodup
  · rw [hquiet.stack]
    exact ok.begun

theorem step {m : Moment σ} (ok : Stacked past state) (hstep : Step state m) :
    Stacked (past ++ [m]) m.state := by
  have hbegun : ∀ u ∈ state.stack.map (·.uri), ∃ n ∈ past ++ [m], n.event = .start u := by
    intro u hu
    obtain ⟨n, hn, hevent⟩ := ok.begun u hu
    exact ⟨n, List.mem_append_left _ hn, hevent⟩
  cases hstep with
  | load env specifier base next hquiet => exact Stacked.of_quiet ⟨ok.nodup, hbegun⟩ hquiet
  | start artifact resolved hquiet hnew hidle =>
      have hfresh := isRunning_eq_false_iff.mp hidle
      rw [hquiet.stack] at hfresh
      refine ⟨?_, ?_⟩
      · show (artifact.uri :: resolved.stack.map (·.uri)).Nodup
        rw [hquiet.stack]
        exact List.nodup_cons.mpr ⟨hfresh, ok.nodup⟩
      · show ∀ u ∈ artifact.uri :: resolved.stack.map (·.uri), _
        rw [hquiet.stack]
        intro u hu
        rcases List.mem_cons.mp hu with rfl | hu
        · exact ⟨_, List.mem_append_right _ List.mem_cons_self, rfl⟩
        · exact hbegun u hu
  | finish artifact rest result next htop hstack hevaluated =>
      have hnodup := ok.nodup
      rw [htop] at hnodup hbegun
      refine ⟨?_, ?_⟩
      · rw [hstack]
        exact (List.nodup_cons.mp hnodup).2
      · rw [hstack]
        intro u hu
        exact hbegun u (List.mem_cons_of_mem _ hu)

theorem path {ms : List (Moment σ)} {last : Evaluation σ} (ok : Stacked past state)
    (hpath : Path state ms last) : Stacked (past ++ ms) last :=
  hpath.keeps (fun _ _ _ ok hquiet => ok.of_quiet hquiet) (fun _ _ _ ok hstep => ok.step hstep) ok

end Stacked

/-! ### What ever happens in a load -/

/-- The load comes to an end. -/
def Finishes (host : Host σ) (call : Call) (state : Evaluation σ) : Prop :=
  ∃ limit, (loadAndRun call.env host limit state call.specifier call.base).isSome = true

/-- The moment is seen in the course of the load, however deeply loads may nest. -/
def Sees (host : Host σ) (call : Call) (state : Evaluation σ) (m : Moment σ) : Prop :=
  ∃ limit, m ∈ (observe call.env host limit state call.specifier call.base).history

/-- A module begins to run under this identity in the course of the load. -/
def RunsUnder (host : Host σ) (call : Call) (state : Evaluation σ) (u : String) : Prop :=
  ∃ m, Sees host call state m ∧ m.event = .start u

section Ends

variable {host : Host σ} {call : Call} {state : Evaluation σ}

/-- A load that finishes sees no more than it has seen by then. -/
theorem Finishes.sees (h : Finishes host call state) :
    ∃ history : List (Moment σ), ∀ m, Sees host call state m → m ∈ history := by
  obtain ⟨limit, hsome⟩ := h
  obtain ⟨answered, hresult⟩ := Option.isSome_iff_exists.mp hsome
  rw [← observe_result] at hresult
  refine ⟨(observe call.env host limit state call.specifier call.base).history, ?_⟩
  rintro m ⟨other, hm⟩
  rcases Nat.le_total other limit with hle | hle
  · exact (observe_extends call.env host hle state _ _).history.subset hm
  · rwa [(observe_extends call.env host hle state _ _).result _ hresult] at hm

/-- A load that finishes runs modules under finitely many identities. -/
theorem Finishes.runsUnder (h : Finishes host call state) :
    ∃ known : List String, ∀ u, RunsUnder host call state u → u ∈ known := by
  obtain ⟨history, hhistory⟩ := h.sees
  refine ⟨history.filterMap fun m => m.event.started?, ?_⟩
  rintro u ⟨m, hm, hevent⟩
  refine List.mem_filterMap.mpr ⟨m, hhistory m hm, ?_⟩
  rw [hevent]
  rfl

/-- A load whose nesting is bounded finishes. -/
theorem finishes_of_depth_le {bound : Nat}
    (hbound : ∀ m, Sees host call state m → m.state.depth ≤ bound) : Finishes host call state := by
  refine ⟨bound, ?_⟩
  rw [← observe_result, ← Option.ne_none_iff_isSome]
  intro hnone
  obtain ⟨m, hm, hle⟩ := observe_deep call.env host bound state call.specifier call.base hnone
  have := hbound m ⟨bound, hm⟩
  omega

/-- With nothing running before, a module on the stack is one that began to run. -/
theorem stack_runsUnder (hempty : state.stack = []) {m : Moment σ} (hm : Sees host call state m) :
    (m.state.stack.map (·.uri)).Nodup ∧
      ∀ u ∈ m.state.stack.map (·.uri), RunsUnder host call state u := by
  obtain ⟨limit, hm⟩ := hm
  obtain ⟨last, hpath⟩ := (tracks_observe call.env host limit state call.specifier call.base).path
  obtain ⟨past, later, hsplit⟩ := List.append_of_mem hm
  obtain ⟨before, hbefore, hstep⟩ := hpath.split hsplit
  have hstart : Stacked [] state := by
    refine ⟨?_, ?_⟩
    · rw [hempty]
      exact List.nodup_nil
    · rw [hempty]
      intro u hu
      cases hu
  have hstacked := (hstart.path hbefore).step hstep
  refine ⟨hstacked.nodup, ?_⟩
  intro u hu
  obtain ⟨n, hn, hevent⟩ := hstacked.begun u hu
  refine ⟨n, ⟨limit, ?_⟩, hevent⟩
  rw [hsplit]
  rcases List.mem_append.mp hn with hn | hn
  · exact List.mem_append_left _ hn
  · rw [List.mem_singleton.mp hn]
    exact List.mem_append_right _ List.mem_cons_self

/-- A module that begins to run is put on top of the stack. -/
theorem Sees.started {m : Moment σ} (hm : Sees host call state m) {u : String}
    (hevent : m.event = .start u) : ∃ artifact ∈ m.state.stack, artifact.uri = u := by
  obtain ⟨limit, hm⟩ := hm
  obtain ⟨last, hpath⟩ := (tracks_observe call.env host limit state call.specifier call.base).path
  obtain ⟨past, later, hsplit⟩ := List.append_of_mem hm
  obtain ⟨before, -, hstep⟩ := hpath.split hsplit
  cases hstep with
  | load env specifier base next hquiet => cases hevent
  | start artifact resolved hquiet hnew hidle =>
      obtain rfl := Event.start.inj hevent
      exact ⟨artifact, List.mem_cons_self, rfl⟩
  | finish artifact rest result next htop hstack hevaluated => cases hevent

/-- The stack is never higher than there are identities. -/
theorem depth_le_length (hempty : state.stack = []) {known : List String}
    (hknown : ∀ u, RunsUnder host call state u → u ∈ known) {m : Moment σ}
    (hm : Sees host call state m) : m.state.depth ≤ known.length := by
  obtain ⟨hnodup, hruns⟩ := stack_runsUnder hempty hm
  have hle := hnodup.length_le_of_subset fun u hu => hknown u (hruns u hu)
  rwa [List.length_map] at hle

end Ends

/-! ### A load ends if and only if its identities do -/

/-- The texts of at most `n` characters. -/
def textsUpTo : Nat → List (List Char)
  | 0 => [[]]
  | n + 1 =>
    [] :: ((List.range 0x110000).map Char.ofNat).flatMap fun c => (textsUpTo n).map (c :: ·)

theorem mem_textsUpTo : ∀ (n : Nat) (cs : List Char), cs.length ≤ n → cs ∈ textsUpTo n := by
  intro n
  induction n with
  | zero =>
      intro cs hle
      rw [List.eq_nil_of_length_eq_zero (Nat.le_zero.mp hle)]
      exact List.mem_singleton.mpr rfl
  | succ n ih =>
      intro cs hle
      rcases cs with _ | ⟨c, cs⟩
      · exact List.mem_cons_self
      · have hc : c ∈ (List.range 0x110000).map Char.ofNat := by
          refine List.mem_map.mpr ⟨c.toNat, List.mem_range.mpr ?_, Char.ofNat_toNat c⟩
          have hvalid : c.toNat < 0xd800 ∨ (0xdfff < c.toNat ∧ c.toNat < 0x110000) := c.valid
          omega
        have hcs := ih cs (Nat.le_of_succ_le_succ hle)
        refine List.mem_cons_of_mem _ (List.mem_flatMap.mpr ⟨c, hc, ?_⟩)
        exact List.mem_map_of_mem hcs

/-- Finitely many values have a bound. -/
theorem exists_bound {τ : Type} (f : τ → Nat) (xs : List τ) : ∃ bound, ∀ x ∈ xs, f x ≤ bound := by
  induction xs with
  | nil => exact ⟨0, by intro x hx; cases hx⟩
  | cons x xs ih =>
      obtain ⟨bound, hbound⟩ := ih
      refine ⟨max (f x) bound, ?_⟩
      intro y hy
      rcases List.mem_cons.mp hy with rfl | hy
      · exact Nat.le_max_left _ _
      · exact Nat.le_trans (hbound y hy) (Nat.le_max_right _ _)

section Known

variable {host : Host σ} {call : Call} {state : Evaluation σ}

/-- A load whose modules run under finitely many identities finishes. -/
theorem finishes_of_known (hempty : state.stack = []) {known : List String}
    (hknown : ∀ u, RunsUnder host call state u → u ∈ known) : Finishes host call state :=
  finishes_of_depth_le fun _ hm => depth_le_length hempty hknown hm

/-- A load whose modules run under identities of bounded length finishes. -/
theorem finishes_of_length_le (hempty : state.stack = []) {bound : Nat}
    (hbound : ∀ u, RunsUnder host call state u → u.length ≤ bound) : Finishes host call state := by
  have hknown : ∀ u, RunsUnder host call state u → u ∈ (textsUpTo bound).map String.ofList := by
    intro u hu
    have hlength := hbound u hu
    rw [← String.length_toList] at hlength
    exact List.mem_map.mpr ⟨u.toList, mem_textsUpTo bound _ hlength, String.ofList_toList⟩
  exact finishes_of_known hempty hknown

end Known

/-- **A load comes to an end if and only if its modules run under finitely many identities**:
under identities that do not grow without end; and if and only if modules run each other to a
bounded depth. -/
theorem finishes_iff (host : Host σ) (call : Call) (compile : CompileState σ)
    (evaluated : List String) :
    let state : Evaluation σ := { toCompileState := compile, evaluated := evaluated }
    (Finishes host call state ↔
      ∃ known : List String, ∀ u, RunsUnder host call state u → u ∈ known) ∧
    (Finishes host call state ↔ ∃ bound, ∀ u, RunsUnder host call state u → u.length ≤ bound) ∧
    (Finishes host call state ↔ ∃ bound, ∀ m, Sees host call state m → m.state.depth ≤ bound) := by
  intro state
  refine ⟨⟨Finishes.runsUnder, fun ⟨known, hknown⟩ => finishes_of_known rfl hknown⟩, ⟨?_, ?_⟩,
    ⟨?_, ?_⟩⟩
  · intro h
    obtain ⟨known, hknown⟩ := h.runsUnder
    obtain ⟨bound, hbound⟩ := exists_bound String.length known
    exact ⟨bound, fun u hu => hbound u (hknown u hu)⟩
  · rintro ⟨bound, hbound⟩
    exact finishes_of_length_le rfl hbound
  · intro h
    obtain ⟨history, hhistory⟩ := h.sees
    obtain ⟨bound, hbound⟩ := exists_bound (fun m : Moment σ => m.state.depth) history
    exact ⟨bound, fun m hm => hbound m (hhistory m hm)⟩
  · rintro ⟨bound, hbound⟩
    exact finishes_of_depth_le hbound

end ModuleLoader.Evaluation
