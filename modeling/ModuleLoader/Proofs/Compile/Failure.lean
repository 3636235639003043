/-
Sources, and compiled forms that cannot be read.

A module that is asked for in compiled form is searched for twice, as such and as its source.  If
only the source is found (`OnlySource`), it should not matter whether the compiled form does not
exist or cannot be read: the source is compiled, and a failure to read is reported only if there
is nothing to compile either (`FallsBack`).

The first search is not one whose failures are held back.  A compiled form that cannot be read
ends the request, and a source that would have been found is not looked for (`Blocked`).  That is
the only thing that keeps a request from falling back on the source (`answer_fallsBack_iff`).
-/
import ModuleLoader.Proofs.Compile.Shelves
import ModuleLoader.Proofs.Search.Failure

namespace ModuleLoader.OnDemand

open Search

variable {σ : Type}

/-! ### Sources to fall back on -/

/-- The search for the compiled form. -/
def searched (request : Request) (raw : RawCache) : Outcome × RawCache :=
  findIn request.env raw request.specifier request.base request.context

/-- The compiled form is not found, be it absent or unreadable, but the source `source` that it
is made from is, after which `raw'` is known. -/
structure OnlySource (request : Request) (raw : RawCache) (source : String) (raw' : RawCache) :
    Prop where
  missed : Passed (searched request raw).1
  sourced : ∃ counterpart found,
    request.env.settings.convention.sourceCounterpart request.specifier = some counterpart ∧
    findIn request.env (searched request raw).2 counterpart request.base request.context
      = (.ok (some found), raw') ∧
    found.artifact.uri = source

/-- What comes of compiling a source: what it was compiled to, before or just now, or what the
compiler has against it. -/
inductive CompiledFrom (source : String) : Outcome → Prop
  | made (artifact : Artifact) : CompiledFrom source (.ok (some ⟨artifact, some (.compiled source)⟩))
  | refused (cause : CompilationError) : CompiledFrom source (.error (.compilation cause))

/-- The answer to a request if compiled forms that cannot be read are passed over. -/
structure FallsBack (compiler : Compiler σ) (state : CompileState σ) (request : Request) : Prop where
  /-- If only the source is found, it is compiled. -/
  compiles : ∀ source raw, OnlySource request state.raw source raw →
    answer compiler state request =
      compileOnce request.env compiler { state with raw := raw } source request.specifier ∧
    CompiledFrom source (answer compiler state request).1
  /-- A failure to read is reported only if neither form is found. -/
  failed : ∀ e, (answer compiler state request).1 = .error e → e.isIo = true →
    (∀ found, (searched request state.raw).1 ≠ .ok (some found)) ∧
      ∀ source raw, ¬ OnlySource request state.raw source raw

/-- The compiled form cannot be read, and the source would be found. -/
structure Blocked (request : Request) (raw : RawCache) (e : LoadError) : Prop where
  unread : (searched request raw).1 = .error e
  io : e.isIo = true
  sourced : ∃ source raw', OnlySource request raw source raw'

/-- No place has the compiled form, which is not known either, and `e` is the failure of the first
place that cannot be read; but the source is found. -/
structure Unreadable (request : Request) (raw : RawCache) (e : LoadError) : Prop where
  unknown : raw.get? request.specifier = none
  lost : ∀ artifact, .ok (some artifact) ∉ places request.env request.specifier
  first : ∃ after, FailsFirst (places request.env request.specifier) e after
  sourced : ∃ counterpart found,
    request.env.settings.convention.sourceCounterpart request.specifier = some counterpart ∧
    (findIn request.env raw counterpart request.base request.context).1 = .ok (some found)

/-! ### What blocks a request -/

section Requests

variable (compiler : Compiler σ) (state : CompileState σ) {request : Request}

theorem compileOnce_compiledFrom (env : Environment) (source requested : String) :
    CompiledFrom source (compileOnce env compiler state source requested).1 := by
  unfold compileOnce
  rcases compiled? state source with _ | artifact
  · unfold compile
    rcases run env (compiler state.host source) state.raw with ⟨⟨cause | output, host⟩, raw⟩
    · exact .refused cause
    · exact .made _
  · exact .made artifact

theorem not_isIo_of_compiledFrom {source : String} {e : LoadError}
    (h : CompiledFrom source (.error e)) : e.isIo = false := by
  cases h with
  | refused cause => rfl

/-- A search that fails ends the request. -/
theorem answer_of_failed {e : LoadError} (h : (searched request state.raw).1 = .error e) :
    answer compiler state request =
      (.error e, { state with raw := (searched request state.raw).2 }) := by
  have hsearch : findIn request.env state.raw request.specifier request.base request.context
      = (.error e, (searched request state.raw).2) := Prod.ext h rfl
  unfold answer executableIn
  rw [hsearch]

/-- A request comes down to a source if only that is found and the compiled form is absent. -/
theorem OnlySource.reaches {raw raw' : RawCache} {source : String}
    (h : OnlySource request raw source raw') (hnone : (searched request raw).1 = .ok none) :
    Reaches request raw source raw' := by
  obtain ⟨counterpart, found, hname, hfound, huri⟩ := h.sourced
  exact ⟨(searched request raw).2, counterpart, found, Prod.ext hnone rfl, hname, hfound, huri⟩

theorem OnlySource.not_found {raw raw' : RawCache} {source : String}
    (h : OnlySource request raw source raw') (found : Found) :
    (searched request raw).1 ≠ .ok (some found) := by
  intro heq
  have hmissed := h.missed
  rw [heq] at hmissed
  cases hmissed

/-- If only the source is found, it is compiled, or else the request is blocked. -/
theorem OnlySource.compiled_or_blocked {raw : RawCache} {source : String}
    (h : OnlySource request state.raw source raw) :
    answer compiler state request =
        compileOnce request.env compiler { state with raw := raw } source request.specifier ∨
      ∃ e, Blocked request state.raw e := by
  rcases hsearch : (searched request state.raw).1 with e | _ | found
  · have hmissed := h.missed
    rw [hsearch] at hmissed
    cases hmissed with
    | unread _ hio => exact Or.inr ⟨e, hsearch, hio, source, raw, h⟩
  · exact Or.inl (answer_of_reaches compiler state request (h.reaches hsearch))
  · exact absurd hsearch (h.not_found found)

/-- A request falls back on the source unless it is blocked. -/
theorem fallsBack_iff :
    FallsBack compiler state request ↔ ∀ e, ¬ Blocked request state.raw e := by
  constructor
  · intro h e hblocked
    obtain ⟨source, raw, honly⟩ := hblocked.sourced
    have hanswer := congrArg Prod.fst (answer_of_failed compiler state hblocked.unread)
    exact (h.failed e hanswer hblocked.io).2 source raw honly
  · intro h
    have hcompiles (source : String) (raw : RawCache)
        (honly : OnlySource request state.raw source raw) :
        answer compiler state request =
          compileOnce request.env compiler { state with raw := raw } source request.specifier := by
      rcases honly.compiled_or_blocked compiler state with hanswer | ⟨e, hblocked⟩
      · exact hanswer
      · exact absurd hblocked (h e)
    have hcompiled (source : String) (raw : RawCache)
        (honly : OnlySource request state.raw source raw) :
        CompiledFrom source (answer compiler state request).1 := by
      rw [hcompiles source raw honly]
      exact compileOnce_compiledFrom compiler _ request.env source request.specifier
    refine ⟨fun source raw honly =>
      ⟨hcompiles source raw honly, hcompiled source raw honly⟩, ?_⟩
    intro e hfails hio
    -- What is found is handed out, and a compilation does not fail as a reading does.
    refine ⟨fun found hfound => ?_, fun source raw honly => ?_⟩
    · rw [answer_of_found compiler state request (Prod.ext hfound rfl)] at hfails
      cases hfails
    · have hcompiled := hcompiled source raw honly
      rw [hfails] at hcompiled
      rw [not_isIo_of_compiledFrom hcompiled] at hio
      cases hio

/-- What blocks the request for a name that is no relative reference. -/
theorem blocked_iff {raw : RawCache} (hrel : Reference.isRelative request.specifier = false)
    {e : LoadError} : Blocked request raw e ↔ Unreadable request raw e := by
  rcases hheld : raw.get? request.specifier with _ | artifact
  · have hsearched : searched request raw
        = keeping raw request.specifier (search request.env request.specifier) :=
      findIn_of_fresh hheld hrel
    constructor
    · rintro ⟨hunread, -, source, raw', -, counterpart, found, hname, hfound, -⟩
      rw [hsearched, keeping_eq_error_iff] at hunread
      rw [hsearched, hunread] at hfound
      obtain ⟨hlost, hfirst⟩ := search_eq_error_iff.mp hunread
      exact ⟨hheld, hlost, hfirst, counterpart, found, hname, congrArg Prod.fst hfound⟩
    · rintro ⟨-, hlost, hfirst, counterpart, found, hname, hfound⟩
      have herror := search_eq_error_iff.mpr ⟨hlost, hfirst⟩
      have hio : e.isIo = true := search_isIo herror
      have hunread : searched request raw = (.error e, raw) := by
        rw [hsearched, herror]
        rfl
      -- The failure has kept nothing, so the source is found as it would be without it.
      have honly : OnlySource request raw found.artifact.uri
          (findIn request.env raw counterpart request.base request.context).2 := by
        refine ⟨?_, counterpart, found, hname, ?_, rfl⟩
        · rw [hunread]
          exact .unread e hio
        · rw [hunread]
          exact Prod.ext hfound rfl
      exact ⟨congrArg Prod.fst hunread, hio, _, _, honly⟩
  · refine iff_of_false (fun h => ?_) (fun h => ?_)
    · have hunread := h.unread
      rw [searched, findIn_of_held hheld] at hunread
      cases hunread
    · cases hheld.symm.trans h.unknown

end Requests

/-- **A request falls back on the source unless the compiled form cannot be read.**  In every
state and for every request: if only the source is found it is compiled, and a failure to read is
reported only if neither form is found, if and only if the request is not blocked by a compiled
form that cannot be read.  Such a failure is the answer, no matter what the source is, and no
compiler has a part in it.  For a name that is no relative reference it is the failure of the
first place that cannot be read, when no place has the compiled form. -/
theorem answer_fallsBack_iff (compiler : Compiler σ) (state : CompileState σ) (request : Request) :
    (FallsBack compiler state request ↔ ∀ e, ¬ Blocked request state.raw e) ∧
    (∀ e, Blocked request state.raw e → answer compiler state request =
      (.error e, { state with raw := (searched request state.raw).2 })) ∧
    (Reference.isRelative request.specifier = false →
      ∀ e, Blocked request state.raw e ↔ Unreadable request state.raw e) :=
  ⟨fallsBack_iff compiler state,
    fun _ hblocked => answer_of_failed compiler state hblocked.unread,
    fun hrel _ => blocked_iff hrel⟩

/-- An archive with a source, where the packaged resources that come before its compiled form
cannot be read. -/
def sourceOnly : Environment := { damaged with archive := .ofFiles [("lib/a.ts", "let a;")] }

/-- A compiler that gives the name of the source. -/
def echoing : Compiler Unit := fun host source => .finish host (.ok source)

/-- What is reported of the compiled form that cannot be read. -/
def unreadForm : LoadError := .io "node_modules/lib/a.js" .accessDenied

/-- The source, found. -/
def onlySource : Found := ⟨⟨"lib/a.ts", "let a;"⟩, some (.raw "lib/a.ts")⟩

theorem sourceCounterpart_onlySource :
    sourceOnly.settings.convention.sourceCounterpart "lib/a.js" = some "lib/a.ts" :=
  SuffixConvention.exchange_eq_some_iff.mpr ⟨"lib/a", rfl, rfl⟩

theorem search_unreadForm : search sourceOnly "lib/a.js" = .error unreadForm := by
  have hinner : innerName? sourceOnly.settings.dependencyMarker "lib/a.js" = none :=
    innerName?_eq_none (c := 'd') (by decide) (by decide)
  have habsent : sourceOnly.archive.findFile "lib/a.js" = none := by rfl
  unfold search candidates
  rw [habsent, hinner]
  rfl

/-- One root of the packaged resources that cannot be read keeps a source from being compiled. -/
theorem answer_fallsBack_sourceOnly :
    let request : Request := ⟨sourceOnly, "lib/a.js", none, none⟩
    let state : CompileState Unit := { host := () }
    Reference.isRelative request.specifier = false ∧ ¬ FallsBack echoing state request := by
  intro request state
  have hrel : Reference.isRelative request.specifier = false := by decide
  obtain ⟨hiff, -, hblocked⟩ := answer_fallsBack_iff echoing state request
  obtain ⟨hlost, hfails⟩ := search_eq_error_iff.mp search_unreadForm
  refine ⟨hrel, fun h => hiff.mp h unreadForm ((hblocked hrel unreadForm).mpr ?_)⟩
  exact ⟨rfl, hlost, hfails, "lib/a.ts", onlySource, sourceCounterpart_onlySource, by rfl⟩

/-- Only the source is found, and the answer is that the compiled form cannot be read. -/
theorem answer_unreadForm :
    let request : Request := ⟨sourceOnly, "lib/a.js", none, none⟩
    OnlySource request {} "lib/a.ts" ⟨[("lib/a.ts", onlySource.artifact)]⟩ ∧
      answer echoing { host := () } request = (.error unreadForm, { host := () }) := by
  intro request
  have hunread : searched request {} = (.error unreadForm, {}) := by
    unfold searched
    rw [findIn_of_fresh rfl (by decide), search_unreadForm]
    rfl
  refine ⟨⟨?_, "lib/a.ts", onlySource, sourceCounterpart_onlySource, ?_, rfl⟩, ?_⟩
  · rw [hunread]
    exact .unread unreadForm rfl
  · rw [hunread]
    rfl
  · rw [answer_of_failed echoing _ (congrArg Prod.fst hunread), hunread]

end ModuleLoader.OnDemand
