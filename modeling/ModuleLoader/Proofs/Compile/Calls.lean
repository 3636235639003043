/-
What a compiler is asked, and what it answers.

The compiler is a program of the host, and only the host sees it being called.  So a
compiler is made to keep a ledger: `Compiler.recorded` is the same compiler over a host
that also holds the calls made so far, each with its answer.  Keeping them changes
nothing else, which is what `outcomes_recorded` says.

Whether a request calls the compiler is settled by two lookups.  `Reaches` is the case in
which it can: the compiled form is not found and the source is.  A request that reaches a
source is answered by `compileOnce` (`answer_of_reaches`); one that reaches none is
answered without the compiler and leaves every slot alone (`answer_of_not_reaches`).
Nothing below opens `executableIn` again.
-/
import ModuleLoader.Compile.OnDemand

namespace ModuleLoader

variable {σ : Type}

/-- A call of the compiler: the source that was to be compiled, and the answer. -/
structure CompilerCall where
  source : String
  answer : Except CompilationError String

/-- The call ended with a text. -/
def CompilerCall.Succeeded (call : CompilerCall) : Prop := ∃ text, call.answer = .ok text

/-- The call ended with an error. -/
def CompilerCall.Failed (call : CompilerCall) : Prop := ∃ e, call.answer = .error e

theorem CompilerCall.failed_or_succeeded (call : CompilerCall) : call.Failed ∨ call.Succeeded := by
  rcases h : call.answer with e | text
  · exact .inl ⟨e, h⟩
  · exact .inr ⟨text, h⟩

/-- The run with one more call written down when it ends. -/
def CompilerRun.recorded (source : String) (calls : List CompilerCall) :
    CompilerRun σ → CompilerRun (σ × List CompilerCall)
  | .finish state result => .finish (state, calls ++ [⟨source, result⟩]) result
  | .ask specifier base next => .ask specifier base fun answer => (next answer).recorded source calls

/-- The compiler with a ledger of its calls. -/
def Compiler.recorded (compiler : Compiler σ) : Compiler (σ × List CompilerCall) :=
  fun host source => (compiler host.1 source).recorded source host.2

namespace OnDemand

/-! ### Requests one after the other -/

/-- A request for a module, and everything modules are found in when it comes. -/
structure Request where
  env : Environment
  specifier : String
  base : Option String
  context : Option Artifact

/-- Answers a request. -/
def answer (compiler : Compiler σ) (state : CompileState σ) (request : Request) :
    Outcome × CompileState σ :=
  executableIn request.env compiler state request.specifier request.base request.context

/-- A request that has been answered, with the states before and after it. -/
structure Served (σ : Type) where
  request : Request
  before : CompileState σ
  outcome : Outcome
  after : CompileState σ

/-- Answers requests in order. -/
def serve (compiler : Compiler σ) : CompileState σ → List Request → List (Served σ)
  | _, [] => []
  | state, request :: rest =>
    let (outcome, after) := answer compiler state request
    ⟨request, state, outcome, after⟩ :: serve compiler after rest

theorem serve_cons (compiler : Compiler σ) (state : CompileState σ) (request : Request)
    (rest : List Request) :
    serve compiler state (request :: rest) =
      ⟨request, state, (answer compiler state request).1, (answer compiler state request).2⟩ ::
        serve compiler (answer compiler state request).2 rest := rfl

/-- The ledger as it stands in a state. -/
def ledger (state : CompileState (σ × List CompilerCall)) : List CompilerCall := state.host.2

/-- The calls made while a request was answered. -/
def Served.calls (served : Served (σ × List CompilerCall)) : List CompilerCall :=
  (ledger served.after).drop (ledger served.before).length

/-- A request comes down to the source `source`: its compiled form is not found, and the
source that it is made from is, after which `raw'` is known. -/
def Reaches (request : Request) (raw : RawCache) (source : String) (raw' : RawCache) : Prop :=
  ∃ known counterpart found,
    Search.findIn request.env raw request.specifier request.base request.context
      = (.ok none, known) ∧
    request.env.settings.convention.sourceCounterpart request.specifier = some counterpart ∧
    Search.findIn request.env known counterpart request.base request.context
      = (.ok (some found), raw') ∧
    found.artifact.uri = source

/-! ### Slots -/

theorem lookup_setSlot (source u : String) (value : Option Artifact) :
    ∀ slots : List (String × Option Artifact),
      (setSlot source value slots).lookup u = if u = source then some value else slots.lookup u := by
  intro slots
  induction slots with
  | nil =>
      by_cases h : u = source
      · simp [setSlot, h]
      · simp [setSlot, List.lookup_cons, h, beq_eq_false_iff_ne.mpr h]
  | cons slot rest ih =>
      obtain ⟨s, v⟩ := slot
      by_cases hs : s = source
      · subst hs
        by_cases hu : u = s
        · simp [setSlot, hu]
        · simp [setSlot, List.lookup_cons, hu, beq_eq_false_iff_ne.mpr hu]
      · by_cases hu : u = s
        · subst hu
          simp [setSlot, hs]
        · simp [setSlot, List.lookup_cons, hs, ih, beq_eq_false_iff_ne.mpr hu]

/-- Writing a slot changes that slot and no other. -/
theorem compiled?_setSlot (state : CompileState σ) (raw : RawCache) (host : σ)
    (source u : String) (value : Option Artifact) :
    compiled? { state with raw := raw, slots := setSlot source value state.slots, host := host } u
      = if u = source then value else compiled? state u := by
  simp only [compiled?, lookup_setSlot]
  by_cases h : u = source <;> simp [h]

/-! ### The ledger gets one more call, and nothing else changes -/

theorem run_recorded (env : Environment) (source : String) (calls : List CompilerCall)
    (r : CompilerRun σ) :
    ∀ raw : RawCache, run env (r.recorded source calls) raw =
      (((run env r raw).1.1, (run env r raw).1.2, calls ++ [⟨source, (run env r raw).1.1⟩]),
        (run env r raw).2) := by
  induction r with
  | finish state result => intro raw; rfl
  | ask specifier base next ih =>
      intro raw
      exact ih (Search.find env raw specifier base).1 (Search.find env raw specifier base).2

/-- The state without the ledger. -/
def unrecorded (state : CompileState (σ × List CompilerCall)) : CompileState σ :=
  { raw := state.raw, slots := state.slots, host := state.host.1 }

theorem compile_recorded (env : Environment) (compiler : Compiler σ)
    (state : CompileState (σ × List CompilerCall)) (source requested : String) :
    ((compile env compiler.recorded state source requested).1,
        unrecorded (compile env compiler.recorded state source requested).2) =
      compile env compiler (unrecorded state) source requested := by
  unfold compile Compiler.recorded
  rw [run_recorded]
  simp only [unrecorded]
  rcases run env (compiler state.host.1 source) state.raw with ⟨⟨result | output, host⟩, raw⟩ <;>
    rfl

theorem compileOnce_recorded (env : Environment) (compiler : Compiler σ)
    (state : CompileState (σ × List CompilerCall)) (source requested : String) :
    ((compileOnce env compiler.recorded state source requested).1,
        unrecorded (compileOnce env compiler.recorded state source requested).2) =
      compileOnce env compiler (unrecorded state) source requested := by
  have hslot : compiled? (unrecorded state) source = compiled? state source := rfl
  unfold compileOnce
  rw [hslot]
  rcases compiled? state source with _ | artifact
  · exact compile_recorded env compiler state source requested
  · rfl

/-! ### What a request does -/

/-- What a call does: an error is passed on and every slot stays as it was; a text becomes
the artifact that is answered and that fills the slot of the source. -/
def AnsweredBy (call : CompilerCall) (before after : CompileState σ) (outcome : Outcome) : Prop :=
  match call.answer with
  | .error e => outcome = .error (.compilation e) ∧ ∀ u, compiled? after u = compiled? before u
  | .ok text => ∃ artifact : Artifact, artifact.contents = text ∧
      outcome = .ok (some ⟨artifact, some (.compiled call.source)⟩) ∧
      ∀ u, compiled? after u = if u = call.source then some artifact else compiled? before u

namespace AnsweredBy

variable {call : CompilerCall} {before after : CompileState σ} {outcome : Outcome}

/-- A call that failed leaves the slots as they were. -/
theorem of_failed (h : AnsweredBy call before after outcome) (hfailed : call.Failed) (u : String) :
    compiled? after u = compiled? before u := by
  obtain ⟨e, he⟩ := hfailed
  unfold AnsweredBy at h
  rw [he] at h
  exact h.2 u

/-- A call that succeeded fills the slot of its source with what is answered. -/
theorem of_succeeded (h : AnsweredBy call before after outcome) (hok : call.Succeeded) :
    ∃ artifact, outcome = .ok (some ⟨artifact, some (.compiled call.source)⟩) ∧
      ∀ u, compiled? after u = if u = call.source then some artifact else compiled? before u := by
  obtain ⟨text, htext⟩ := hok
  unfold AnsweredBy at h
  rw [htext] at h
  obtain ⟨artifact, -, houtcome, hslots⟩ := h
  exact ⟨artifact, houtcome, hslots⟩

end AnsweredBy

/-- Compiling calls the compiler once, and its answer settles the rest. -/
theorem compile_calls (env : Environment) (compiler : Compiler σ)
    (state : CompileState (σ × List CompilerCall)) (source requested : String) :
    ∃ call : CompilerCall, call.source = source ∧
      ledger (compile env compiler.recorded state source requested).2 = ledger state ++ [call] ∧
      AnsweredBy call state (compile env compiler.recorded state source requested).2
        (compile env compiler.recorded state source requested).1 := by
  unfold compile Compiler.recorded
  rw [run_recorded]
  rcases run env (compiler state.host.1 source) state.raw with ⟨⟨e | output, host⟩, raw⟩
  · refine ⟨⟨source, .error e⟩, rfl, rfl, rfl, ?_⟩
    intro u
    refine (compiled?_setSlot state raw _ source u _).trans ?_
    by_cases h : u = source
    · rw [if_pos h, h]
    · rw [if_neg h]
  · exact ⟨⟨source, .ok output⟩, rfl, rfl, ⟨_, output⟩, rfl, rfl,
      fun u => compiled?_setSlot state raw _ source u _⟩

/-- A name with a source counterpart is the name of a compiled module. -/
theorem kindOf_of_sourceCounterpart {convention : SuffixConvention} {name counterpart : String}
    (h : convention.sourceCounterpart name = some counterpart) :
    convention.kindOf name = .compiled := by
  unfold SuffixConvention.sourceCounterpart SuffixConvention.exchange at h
  obtain ⟨stem, hstem, -⟩ := Option.map_eq_some_iff.mp h
  simp [SuffixConvention.kindOf, SuffixConvention.hasSuffix, hstem]

theorem answer_of_found (compiler : Compiler σ) (state : CompileState σ) (request : Request)
    {found : Found} {raw : RawCache}
    (h : Search.findIn request.env state.raw request.specifier request.base request.context
      = (.ok (some found), raw)) :
    answer compiler state request = (.ok (some found), { state with raw := raw }) := by
  unfold answer executableIn
  rw [h]

theorem answer_of_reaches (compiler : Compiler σ) (state : CompileState σ) (request : Request)
    {source : String} {raw : RawCache} (h : Reaches request state.raw source raw) :
    answer compiler state request =
      compileOnce request.env compiler { state with raw := raw } source request.specifier := by
  obtain ⟨known, counterpart, found, hmiss, hname, hfound, rfl⟩ := h
  unfold answer executableIn
  rw [hmiss]
  simp only [kindOf_of_sourceCounterpart hname, if_pos]
  unfold fromSource
  rw [hname]
  simp only [hfound]

/-- A request that finds its module, or no source for it, changes only what is known of
other modules, and no compiler has a part in it. -/
theorem answer_of_not_reaches (request : Request) (raw : RawCache)
    (h : ∀ source raw', ¬ Reaches request raw source raw') :
    ∃ outcome raw', ∀ {τ : Type} (compiler : Compiler τ) (state : CompileState τ),
      state.raw = raw → answer compiler state request = (outcome, { state with raw := raw' }) := by
  unfold answer executableIn
  rcases hmiss : Search.findIn request.env raw request.specifier request.base
    request.context with ⟨e | _ | found, known⟩
  · exact ⟨.error e, known, fun _ state hraw => by rw [hraw, hmiss]⟩
  · by_cases hkind : request.env.settings.convention.kindOf request.specifier = .compiled
    · rcases hname : request.env.settings.convention.sourceCounterpart request.specifier
        with _ | counterpart
      · refine ⟨.ok none, known, fun _ state hraw => ?_⟩
        rw [hraw, hmiss]
        simp only [hkind, if_pos, fromSource, hname]
      · rcases hsource : Search.findIn request.env known counterpart request.base
          request.context with ⟨e | _ | found, raw'⟩
        · refine ⟨.error e, raw', fun _ state hraw => ?_⟩
          rw [hraw, hmiss]
          simp only [hkind, if_pos, fromSource, hname, hsource]
        · refine ⟨.ok none, raw', fun _ state hraw => ?_⟩
          rw [hraw, hmiss]
          simp only [hkind, if_pos, fromSource, hname, hsource]
        · exact absurd ⟨known, counterpart, found, hmiss, hname, hsource, rfl⟩ (h _ raw')
    · refine ⟨.ok none, known, fun _ state hraw => ?_⟩
      rw [hraw, hmiss]
      simp only [hkind, if_neg, not_false_eq_true]
  · exact ⟨.ok (some found), known, fun _ state hraw => by rw [hraw, hmiss]⟩

/-- The ledger has no part in what is answered. -/
theorem answer_recorded (compiler : Compiler σ) (state : CompileState (σ × List CompilerCall))
    (request : Request) :
    ((answer compiler.recorded state request).1,
        unrecorded (answer compiler.recorded state request).2) =
      answer compiler (unrecorded state) request := by
  by_cases h : ∃ source raw, Reaches request state.raw source raw
  · obtain ⟨source, raw, hreach⟩ := h
    rw [answer_of_reaches compiler.recorded state request hreach,
      answer_of_reaches compiler (unrecorded state) request hreach]
    exact compileOnce_recorded request.env compiler { state with raw := raw } source
      request.specifier
  · obtain ⟨outcome, raw, hall⟩ := answer_of_not_reaches request state.raw
      fun source raw hreach => h ⟨source, raw, hreach⟩
    rw [hall compiler.recorded state rfl, hall compiler (unrecorded state) rfl]
    rfl

/-- **Keeping a ledger changes no outcome.** -/
theorem outcomes_recorded (compiler : Compiler σ) (requests : List Request) :
    ∀ state : CompileState (σ × List CompilerCall),
      (serve compiler.recorded state requests).map (·.outcome) =
        (serve compiler (unrecorded state) requests).map (·.outcome) := by
  induction requests with
  | nil => intro state; rfl
  | cons request rest ih =>
      intro state
      have hstep := answer_recorded compiler state request
      rw [serve_cons, serve_cons, List.map_cons, List.map_cons, ih, ← hstep]

end OnDemand

end ModuleLoader
