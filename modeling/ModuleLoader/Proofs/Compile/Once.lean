/-
Every source is compiled successfully at most once.

Requests come in any order, with any bases and contexts, and the archive, the resources
and the files may change from one to the next; the compiler answers each call as it
likes.  What holds of the ledger nevertheless is collected in `CompilesOnce`.

The invariant is `Kept`: a slot is filled exactly when the ledger has a successful call
for its source.  A source with an empty slot has had only failing calls, so one more call
keeps the calls for it in the shape "failures, then at most one success"; a source with a
filled slot gets no call at all.
-/
import ModuleLoader.Proofs.Compile.Calls

namespace ModuleLoader.OnDemand

variable {σ : Type}

/-- The calls made for one source. -/
def callsFor (source : String) (calls : List CompilerCall) : List CompilerCall :=
  calls.filter (·.source = source)

/-- The calls made while requests were answered. -/
def callsOf (log : List (Served (σ × List CompilerCall))) : List CompilerCall :=
  log.flatMap Served.calls

/-- Failing calls, and at most one call after them, which succeeded. -/
def FailuresThenSuccess (calls : List CompilerCall) : Prop :=
  ∃ (failures : List CompilerCall) (success : Option CompilerCall),
    calls = failures ++ success.toList ∧ (∀ c ∈ failures, c.Failed) ∧ ∀ c ∈ success, c.Succeeded

/-- Some call for the source succeeded. -/
def WasCompiled (source : String) (calls : List CompilerCall) : Prop :=
  ∃ c ∈ calls, c.source = source ∧ c.Succeeded

/-- What holds of requests that have been answered one after the other. -/
structure CompilesOnce (log : List (Served (σ × List CompilerCall))) : Prop where
  /-- The calls for a source fail until one succeeds, and then there are no more. -/
  failuresThenSuccess : ∀ u, FailuresThenSuccess (callsFor u (callsOf log))
  /-- A module that is found in compiled form is answered as found, without a call. -/
  found : ∀ s ∈ log, ∀ found raw,
    Search.findIn s.request.env s.before.raw s.request.specifier s.request.base s.request.context
      = (.ok (some found), raw) →
    s.outcome = .ok (some found) ∧ s.calls = []
  /-- A request calls the compiler at most once, and only for the source it comes down to. -/
  called : ∀ s ∈ log, ∀ c ∈ s.calls,
    s.calls = [c] ∧ ∃ raw, Reaches s.request s.before.raw c.source raw
  /-- The answer to a call settles the outcome and the slots. -/
  answered : ∀ s ∈ log, ∀ c ∈ s.calls, AnsweredBy c s.before s.after s.outcome
  /-- As long as no call for a source has succeeded, a request that comes down to it calls
  the compiler. -/
  retried : ∀ earlier s later, log = earlier ++ s :: later → ∀ u raw,
    Reaches s.request s.before.raw u raw → ¬ WasCompiled u (callsOf earlier) →
    ∃ c, s.calls = [c] ∧ c.source = u
  /-- After a successful call every request that comes down to the source is answered with
  the very artifact that came of it, without a call. -/
  reused : ∀ earlier first between again later,
    log = earlier ++ first :: (between ++ again :: later) → ∀ c ∈ first.calls, c.Succeeded →
    ∀ raw, Reaches again.request again.before.raw c.source raw →
    again.outcome = first.outcome ∧ again.calls = []

/-! ### One request -/

theorem Reaches.unique {request : Request} {raw raw₁ raw₂ : RawCache} {u v : String}
    (hu : Reaches request raw u raw₁) (hv : Reaches request raw v raw₂) : u = v ∧ raw₁ = raw₂ := by
  obtain ⟨known, counterpart, found, hmiss, hname, hfound, rfl⟩ := hu
  obtain ⟨known', counterpart', found', hmiss', hname', hfound', rfl⟩ := hv
  rw [hmiss] at hmiss'
  rw [hname] at hname'
  cases hmiss'
  cases hname'
  rw [hfound] at hfound'
  cases hfound'
  exact ⟨rfl, rfl⟩

/-- A request either makes no call and leaves the slots alone, or makes one, for a source
with an empty slot. -/
inductive Answers (request : Request) (before after : CompileState (σ × List CompilerCall))
    (outcome : Outcome) : Prop
  | quiet (hledger : ledger after = ledger before)
      (hslots : ∀ u, compiled? after u = compiled? before u)
      (hreach : ∀ u raw, Reaches request before.raw u raw →
        ∃ artifact, compiled? before u = some artifact ∧
          outcome = .ok (some ⟨artifact, some (.compiled u)⟩))
  | call (c : CompilerCall) (raw : RawCache) (hreach : Reaches request before.raw c.source raw)
      (hempty : compiled? before c.source = none)
      (hledger : ledger after = ledger before ++ [c])
      (hanswer : AnsweredBy c before after outcome)

theorem answer_answers (compiler : Compiler σ) (state : CompileState (σ × List CompilerCall))
    (request : Request) :
    Answers request state (answer compiler.recorded state request).2
      (answer compiler.recorded state request).1 := by
  by_cases h : ∃ source raw, Reaches request state.raw source raw
  · obtain ⟨source, raw, hreach⟩ := h
    rw [answer_of_reaches compiler.recorded state request hreach]
    unfold compileOnce
    have hslot : compiled? { state with raw := raw } source = compiled? state source := rfl
    rw [hslot]
    rcases hc : compiled? state source with _ | artifact
    · obtain ⟨c, rfl, hledger, hanswer⟩ :=
        compile_calls request.env compiler { state with raw := raw } source request.specifier
      exact .call c raw hreach hc hledger hanswer
    · refine .quiet rfl (fun u => rfl) fun u raw' hreach' => ?_
      obtain ⟨rfl, -⟩ := hreach.unique hreach'
      exact ⟨artifact, hc, rfl⟩
  · have hnone : ∀ source raw, ¬ Reaches request state.raw source raw :=
      fun source raw hreach => h ⟨source, raw, hreach⟩
    obtain ⟨outcome, raw, hall⟩ := answer_of_not_reaches request state.raw hnone
    rw [hall compiler.recorded state rfl]
    exact .quiet rfl (fun u => rfl) fun u raw' hreach => absurd hreach (hnone u raw')

namespace Answers

variable {request : Request} {before after : CompileState (σ × List CompilerCall)}
  {outcome : Outcome}

/-- Filled slots stay as they are. -/
theorem filled (h : Answers request before after outcome) {u : String} {artifact : Artifact}
    (hfull : compiled? before u = some artifact) : compiled? after u = some artifact := by
  cases h with
  | quiet _ hslots _ => rw [hslots u, hfull]
  | call c raw hreach hempty hledger hanswer =>
      rcases c.failed_or_succeeded with hfailed | hok
      · rw [hanswer.of_failed hfailed u, hfull]
      · obtain ⟨_, -, hslots⟩ := hanswer.of_succeeded hok
        have hne : u ≠ c.source := by
          rintro rfl
          rw [hempty] at hfull
          cases hfull
        rw [hslots u, if_neg hne, hfull]

/-- A slot that is empty afterwards was empty before. -/
theorem empty_before (h : Answers request before after outcome) {u : String}
    (hempty : compiled? after u = none) : compiled? before u = none := by
  rcases hslot : compiled? before u with _ | artifact
  · rfl
  · rw [h.filled hslot] at hempty
    cases hempty

/-- The ledger is only added to. -/
theorem ledger_grows (h : Answers request before after outcome) :
    ∃ calls, ledger after = ledger before ++ calls := by
  cases h with
  | quiet hledger _ _ => exact ⟨[], by rw [hledger, List.append_nil]⟩
  | call c raw hreach hempty hledger hanswer => exact ⟨[c], hledger⟩

/-- A call that is not in the ledger yet settles what is answered. -/
theorem old_or_answeredBy (h : Answers request before after outcome) {c : CompilerCall}
    (hc : c ∈ ledger after) : c ∈ ledger before ∨ AnsweredBy c before after outcome := by
  cases h with
  | quiet hledger _ _ =>
      rw [hledger] at hc
      exact .inl hc
  | call d raw hreach hempty hledger hanswer =>
      rw [hledger] at hc
      rcases List.mem_append.mp hc with hc | hc
      · exact .inl hc
      · rw [List.mem_singleton.mp hc]
        exact .inr hanswer

/-- A slot that is filled afterwards was filled before, or a call for its source has succeeded. -/
theorem filled_or_succeeded (h : Answers request before after outcome) {u : String}
    {artifact : Artifact} (hfull : compiled? after u = some artifact) :
    compiled? before u = some artifact ∨ ∃ c ∈ ledger after, c.source = u ∧ c.Succeeded := by
  cases h with
  | quiet _ hslots _ =>
      rw [hslots u] at hfull
      exact .inl hfull
  | call c raw hreach hempty hledger hanswer =>
      rcases c.failed_or_succeeded with hfailed | hok
      · rw [hanswer.of_failed hfailed u] at hfull
        exact .inl hfull
      · obtain ⟨_, -, hslots⟩ := hanswer.of_succeeded hok
        rw [hslots u] at hfull
        by_cases hu : u = c.source
        · refine .inr ⟨c, ?_, hu.symm, hok⟩
          rw [hledger]
          exact List.mem_append_right _ (List.mem_singleton_self c)
        · rw [if_neg hu] at hfull
          exact .inl hfull

end Answers

/-! ### The slots are those of the sources that were compiled -/

/-- What the slots and the ledger say of each other. -/
structure Kept (state : CompileState (σ × List CompilerCall)) : Prop where
  /-- A source with an empty slot has had only failing calls. -/
  empty : ∀ u, compiled? state u = none → ∀ c ∈ ledger state, c.source = u → c.Failed
  /-- A source with a filled slot has been compiled. -/
  full : ∀ u artifact, compiled? state u = some artifact → WasCompiled u (ledger state)
  /-- No source has been compiled twice. -/
  shape : ∀ u, FailuresThenSuccess (callsFor u (ledger state))

theorem kept_start (host : σ) :
    Kept ({ host := (host, []) } : CompileState (σ × List CompilerCall)) where
  empty := by intro u _ c hc; cases hc
  full := by intro u artifact h; cases h
  shape := by intro u; exact ⟨[], none, rfl, by simp, by simp⟩

theorem callsFor_append (u : String) (calls : List CompilerCall) (c : CompilerCall) :
    callsFor u (calls ++ [c]) = if c.source = u then callsFor u calls ++ [c] else callsFor u calls := by
  unfold callsFor
  by_cases h : c.source = u
  · simp [h]
  · simp [h]

theorem WasCompiled.append {u : String} {calls : List CompilerCall} (h : WasCompiled u calls)
    (more : List CompilerCall) : WasCompiled u (calls ++ more) := by
  obtain ⟨c, hc, hsource, hok⟩ := h
  exact ⟨c, List.mem_append_left _ hc, hsource, hok⟩

/-- One more call after failing ones, whatever it answers. -/
theorem failuresThenSuccess_append {calls : List CompilerCall} (hfailed : ∀ c ∈ calls, c.Failed)
    (c : CompilerCall) : FailuresThenSuccess (calls ++ [c]) := by
  rcases c.failed_or_succeeded with hlast | hok
  · refine ⟨calls ++ [c], none, by simp, ?_, by simp⟩
    intro d hd
    rcases List.mem_append.mp hd with hd | hd
    · exact hfailed d hd
    · rw [List.mem_singleton.mp hd]
      exact hlast
  · refine ⟨calls, some c, rfl, hfailed, ?_⟩
    intro d hd
    cases hd
    exact hok

namespace Kept

variable {request : Request} {before after : CompileState (σ × List CompilerCall)}
  {outcome : Outcome}

theorem empty_answers (hk : Kept before) (h : Answers request before after outcome) {u : String}
    (hempty : compiled? after u = none) {c : CompilerCall} (hc : c ∈ ledger after)
    (hsource : c.source = u) : c.Failed := by
  rcases h.old_or_answeredBy hc with hold | hanswer
  · exact hk.empty u (h.empty_before hempty) c hold hsource
  · rcases c.failed_or_succeeded with hfailed | hok
    · exact hfailed
    · -- It would have filled the slot.
      obtain ⟨artifact, -, hslots⟩ := hanswer.of_succeeded hok
      rw [hslots u, if_pos hsource.symm] at hempty
      cases hempty

theorem full_answers (hk : Kept before) (h : Answers request before after outcome) {u : String}
    {artifact : Artifact} (hfull : compiled? after u = some artifact) :
    WasCompiled u (ledger after) := by
  rcases h.filled_or_succeeded hfull with hold | hnew
  · obtain ⟨calls, hledger⟩ := h.ledger_grows
    rw [hledger]
    exact (hk.full u artifact hold).append calls
  · exact hnew

theorem shape_answers (hk : Kept before) (h : Answers request before after outcome) (u : String) :
    FailuresThenSuccess (callsFor u (ledger after)) := by
  cases h with
  | quiet hledger _ _ =>
      rw [hledger]
      exact hk.shape u
  | call c raw hreach hempty hledger hanswer =>
      rw [hledger, callsFor_append]
      by_cases hu : c.source = u
      · rw [if_pos hu]
        refine failuresThenSuccess_append ?_ c
        intro d hd
        obtain ⟨hmem, hsource⟩ := List.mem_filter.mp hd
        exact hk.empty u (by rw [← hu, hempty]) d hmem (of_decide_eq_true hsource)
      · rw [if_neg hu]
        exact hk.shape u

/-- Answering a request keeps the slots and the ledger in step. -/
theorem answers (hk : Kept before) (h : Answers request before after outcome) : Kept after where
  empty := fun _ hempty _ hc hsource => hk.empty_answers h hempty hc hsource
  full := fun _ _ hfull => hk.full_answers h hfull
  shape := hk.shape_answers h

end Kept

/-! ### Requests one after the other -/

/-- The state after some requests. -/
def afterAll (compiler : Compiler σ) (state : CompileState σ) (requests : List Request) :
    CompileState σ :=
  requests.foldl (fun state request => (answer compiler state request).2) state

/-- What is found in the middle of a log came about on the state that the requests before
it have left. -/
theorem serve_eq_append (compiler : Compiler σ) (s : Served σ) (later : List (Served σ)) :
    ∀ (earlier : List (Served σ)) (state : CompileState σ) (requests : List Request),
      serve compiler state requests = earlier ++ s :: later →
      ∃ past future, earlier = serve compiler state past ∧
        s.before = afterAll compiler state past ∧
        answer compiler s.before s.request = (s.outcome, s.after) ∧
        later = serve compiler s.after future := by
  intro earlier
  induction earlier with
  | nil =>
      intro state requests h
      cases requests with
      | nil => cases h
      | cons request rest =>
          rw [serve_cons] at h
          cases h
          exact ⟨[], rest, rfl, rfl, rfl, rfl⟩
  | cons first earlier ih =>
      intro state requests h
      cases requests with
      | nil => cases h
      | cons request rest =>
          rw [serve_cons, List.cons_append] at h
          obtain ⟨hfirst, hrest⟩ := List.cons.inj h
          obtain ⟨past, future, hpast, hbefore, hanswer, hlater⟩ := ih _ rest hrest
          refine ⟨request :: past, future, ?_, hbefore, hanswer, hlater⟩
          rw [serve_cons, hfirst, hpast]

theorem kept_afterAll (compiler : Compiler σ) (requests : List Request) :
    ∀ state : CompileState (σ × List CompilerCall), Kept state →
      Kept (afterAll compiler.recorded state requests) := by
  induction requests with
  | nil => intro state hk; exact hk
  | cons request rest ih =>
      intro state hk
      exact ih _ (hk.answers (answer_answers compiler state request))

theorem filled_afterAll (compiler : Compiler σ) (requests : List Request) {u : String}
    {artifact : Artifact} :
    ∀ state : CompileState (σ × List CompilerCall), compiled? state u = some artifact →
      compiled? (afterAll compiler.recorded state requests) u = some artifact := by
  induction requests with
  | nil => intro state h; exact h
  | cons request rest ih =>
      intro state h
      exact ih _ ((answer_answers compiler state request).filled h)

/-- A request adds its own calls to the ledger. -/
theorem Served.ledger_after {s : Served (σ × List CompilerCall)}
    (h : Answers s.request s.before s.after s.outcome) :
    ledger s.after = ledger s.before ++ s.calls := by
  unfold Served.calls
  cases h with
  | quiet hledger _ _ => rw [hledger]; simp
  | call c raw hreach hempty hledger hanswer => rw [hledger]; simp

theorem ledger_afterAll (compiler : Compiler σ) (requests : List Request) :
    ∀ state : CompileState (σ × List CompilerCall),
      ledger (afterAll compiler.recorded state requests) =
        ledger state ++ callsOf (serve compiler.recorded state requests) := by
  induction requests with
  | nil => intro state; simp [afterAll, serve, callsOf]
  | cons request rest ih =>
      intro state
      have hstep := Served.ledger_after (s := ⟨request, state,
        (answer compiler.recorded state request).1, (answer compiler.recorded state request).2⟩)
        (answer_answers compiler state request)
      have hrest := ih (answer compiler.recorded state request).2
      rw [serve_cons]
      unfold callsOf at hrest ⊢
      rw [List.flatMap_cons, ← List.append_assoc, ← hstep]
      exact hrest

/-! ### Every log compiles once -/

variable {compiler : Compiler σ} {host : σ} {requests : List Request}

/-- A request that has been answered came in on a state whose slots are those of the
sources compiled before it. -/
theorem of_serve_eq_append {earlier later : List (Served (σ × List CompilerCall))}
    {s : Served (σ × List CompilerCall)}
    (h : serve compiler.recorded { host := (host, []) } requests = earlier ++ s :: later) :
    Answers s.request s.before s.after s.outcome ∧ Kept s.before ∧
      ledger s.before = callsOf earlier ∧
      ∃ future, later = serve compiler.recorded s.after future := by
  obtain ⟨past, future, rfl, hbefore, hanswer, hlater⟩ :=
    serve_eq_append compiler.recorded s later earlier _ requests h
  have hstep := answer_answers compiler s.before s.request
  rw [hanswer] at hstep
  refine ⟨hstep, ?_, ?_, future, hlater⟩
  · rw [hbefore]
    exact kept_afterAll compiler past _ (kept_start host)
  · rw [hbefore, ledger_afterAll]
    rfl

theorem answers_of_mem_serve {s : Served (σ × List CompilerCall)}
    (hs : s ∈ serve compiler.recorded { host := (host, []) } requests) :
    Answers s.request s.before s.after s.outcome := by
  obtain ⟨earlier, later, h⟩ := List.append_of_mem hs
  exact (of_serve_eq_append h).1

/-- The calls of a request are none, or the one call that `Answers` speaks of. -/
theorem Answers.mem_calls {s : Served (σ × List CompilerCall)}
    (h : Answers s.request s.before s.after s.outcome) {c : CompilerCall} (hc : c ∈ s.calls) :
    s.calls = [c] ∧ (∃ raw, Reaches s.request s.before.raw c.source raw) ∧
      AnsweredBy c s.before s.after s.outcome := by
  have hledger := Served.ledger_after h
  cases h with
  | quiet hsame _ _ =>
      rw [hsame, List.self_eq_append_right] at hledger
      rw [hledger] at hc
      cases hc
  | call d raw hreach _ hone hanswer =>
      rw [hone, List.append_cancel_left_eq] at hledger
      rw [← hledger] at hc ⊢
      obtain rfl := List.mem_singleton.mp hc
      exact ⟨rfl, ⟨raw, hreach⟩, hanswer⟩

/-- A request that comes down to a source with an empty slot calls the compiler. -/
theorem Answers.calls_of_empty {s : Served (σ × List CompilerCall)}
    (h : Answers s.request s.before s.after s.outcome) {u : String} {raw : RawCache}
    (hreach : Reaches s.request s.before.raw u raw) (hempty : compiled? s.before u = none) :
    ∃ c, s.calls = [c] ∧ c.source = u := by
  have hledger := Served.ledger_after h
  cases h with
  | quiet _ _ hfull =>
      obtain ⟨artifact, hslot, -⟩ := hfull u raw hreach
      rw [hempty] at hslot
      cases hslot
  | call c raw' hreach' _ hone _ =>
      rw [hone, List.append_cancel_left_eq] at hledger
      exact ⟨c, hledger.symm, (hreach'.unique hreach).1⟩

/-- A request that comes down to a source with a filled slot is answered with what fills it. -/
theorem Answers.calls_of_full {s : Served (σ × List CompilerCall)}
    (h : Answers s.request s.before s.after s.outcome) {u : String} {raw : RawCache}
    {artifact : Artifact} (hreach : Reaches s.request s.before.raw u raw)
    (hfull : compiled? s.before u = some artifact) :
    s.outcome = .ok (some ⟨artifact, some (.compiled u)⟩) ∧ s.calls = [] := by
  have hledger := Served.ledger_after h
  cases h with
  | quiet hsame _ hkept =>
      obtain ⟨held, hslot, houtcome⟩ := hkept u raw hreach
      obtain rfl := Option.some.inj (hfull.symm.trans hslot)
      rw [hsame, List.self_eq_append_right] at hledger
      exact ⟨houtcome, hledger⟩
  | call c raw' hreach' hempty _ _ =>
      rw [(hreach'.unique hreach).1, hfull] at hempty
      cases hempty

theorem failuresThenSuccess_serve (u : String) : FailuresThenSuccess
    (callsFor u (callsOf (serve compiler.recorded { host := (host, []) } requests))) := by
  have hkept := kept_afterAll compiler requests _ (kept_start host)
  have hledger := ledger_afterAll compiler requests { host := (host, []) }
  rw [show ledger ({ host := (host, []) } : CompileState (σ × List CompilerCall)) = [] from rfl,
    List.nil_append] at hledger
  rw [← hledger]
  exact hkept.shape u

theorem found_serve {s : Served (σ × List CompilerCall)}
    (hs : s ∈ serve compiler.recorded { host := (host, []) } requests) {found : Found}
    {raw : RawCache}
    (hfound : Search.findIn s.request.env s.before.raw s.request.specifier s.request.base
      s.request.context = (.ok (some found), raw)) :
    s.outcome = .ok (some found) ∧ s.calls = [] := by
  obtain ⟨earlier, later, h⟩ := List.append_of_mem hs
  obtain ⟨_, _, _, _, hanswer, _⟩ := serve_eq_append compiler.recorded s later earlier _ requests h
  have hstep := answer_of_found compiler.recorded s.before s.request hfound
  rw [hanswer] at hstep
  obtain ⟨houtcome, hafter⟩ := Prod.mk.inj hstep
  refine ⟨houtcome, ?_⟩
  unfold Served.calls
  rw [hafter]
  simp [ledger]

theorem retried_serve {earlier later : List (Served (σ × List CompilerCall))}
    {s : Served (σ × List CompilerCall)}
    (h : serve compiler.recorded { host := (host, []) } requests = earlier ++ s :: later)
    {u : String} {raw : RawCache} (hreach : Reaches s.request s.before.raw u raw)
    (hnever : ¬ WasCompiled u (callsOf earlier)) : ∃ c, s.calls = [c] ∧ c.source = u := by
  obtain ⟨hanswers, hkept, hpast, -⟩ := of_serve_eq_append h
  refine hanswers.calls_of_empty hreach ?_
  rcases hslot : compiled? s.before u with _ | artifact
  · rfl
  · have hcompiled := hkept.full u artifact hslot
    rw [hpast] at hcompiled
    exact absurd hcompiled hnever

/-- A filled slot is still filled when a later request comes in. -/
theorem filled_before {state : CompileState (σ × List CompilerCall)}
    {between later : List (Served (σ × List CompilerCall))} {again : Served (σ × List CompilerCall)}
    (h : serve compiler.recorded state requests = between ++ again :: later) {u : String}
    {artifact : Artifact} (hfull : compiled? state u = some artifact) :
    compiled? again.before u = some artifact := by
  obtain ⟨past, _, -, hbefore, -, -⟩ :=
    serve_eq_append compiler.recorded again later between state requests h
  rw [hbefore]
  exact filled_afterAll compiler past state hfull

theorem reused_serve {earlier between later : List (Served (σ × List CompilerCall))}
    {first again : Served (σ × List CompilerCall)}
    (h : serve compiler.recorded { host := (host, []) } requests
      = earlier ++ first :: (between ++ again :: later))
    {c : CompilerCall} (hc : c ∈ first.calls) (hok : c.Succeeded) {raw : RawCache}
    (hreach : Reaches again.request again.before.raw c.source raw) :
    again.outcome = first.outcome ∧ again.calls = [] := by
  obtain ⟨hfirst, -, -, future, hafter⟩ := of_serve_eq_append h
  obtain ⟨-, -, hanswer⟩ := hfirst.mem_calls hc
  obtain ⟨artifact, houtcome, hslots⟩ := hanswer.of_succeeded hok
  have hfull : compiled? again.before c.source = some artifact :=
    filled_before hafter.symm (by rw [hslots, if_pos rfl])
  have hmem : again ∈ serve compiler.recorded { host := (host, []) } requests := by
    rw [h]
    simp
  obtain ⟨hagain, hcalls⟩ := (answers_of_mem_serve hmem).calls_of_full hreach hfull
  exact ⟨hagain.trans houtcome.symm, hcalls⟩

/--
**Every source is compiled successfully at most once**, whatever is requested in whatever
order, whatever changes in between, and whatever the compiler answers.  The ledger that
shows it changes no outcome.
-/
theorem serve_compilesOnce (compiler : Compiler σ) (host : σ) (requests : List Request) :
    (serve compiler.recorded { host := (host, []) } requests).map (·.outcome) =
        (serve compiler { host := host } requests).map (·.outcome) ∧
      CompilesOnce (serve compiler.recorded { host := (host, []) } requests) := by
  refine ⟨outcomes_recorded compiler requests _, ?_⟩
  constructor
  case failuresThenSuccess => exact failuresThenSuccess_serve
  case found =>
    intro s hs found raw hfound
    exact found_serve hs hfound
  case called =>
    intro s hs c hc
    obtain ⟨hone, hreach, -⟩ := (answers_of_mem_serve hs).mem_calls hc
    exact ⟨hone, hreach⟩
  case answered =>
    intro s hs c hc
    obtain ⟨-, -, hanswer⟩ := (answers_of_mem_serve hs).mem_calls hc
    exact hanswer
  case retried =>
    intro earlier s later h u raw hreach hnever
    exact retried_serve h hreach hnever
  case reused =>
    intro earlier first between again later h c hc hok raw hreach
    exact reused_serve h hc hok hreach

end ModuleLoader.OnDemand
