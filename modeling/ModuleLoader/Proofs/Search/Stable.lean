/-
What is held, asked for again.

A module may be asked for by the name that it is held under (`Targets.named`), by a reference that
means this name in a base (`Targets.against`), or by one that means it in the running module
(`Targets.running`).  Whatever has become of the archive, the resources and the files since, the
first two are answered with what is held.

So is the third, unless the name is a URL.  A URL is opened before anything else, and only if it
opens to something is what is held handed out instead.  If the resource behind it has gone or
cannot be read any more, the module is not found, though it is still held (`Lost`).
-/
import ModuleLoader.Proofs.Search.History

namespace ModuleLoader.Search

open OnDemand (Request)

/-! ### What a request comes to mean -/

/-- The reference means `target` in its base, which is found. -/
structure Against (cache : RawCache) (request : Request) (target : String) : Prop where
  relative : Reference.isRelative request.specifier = true
  based : ∃ name found, request.base = some name ∧
    (findAlone request.env cache name).1 = .ok (some found) ∧
    Reference.resolve found.artifact.uri request.specifier = .ok target

/-- The reference means `target` in the running module, and has no base that is found. -/
structure InRunning (cache : RawCache) (request : Request) (target : String) : Prop where
  relative : Reference.isRelative request.specifier = true
  unbased : ∀ name ∈ request.base, (findAlone request.env cache name).1 = .ok none
  running : ∃ module, request.context = some module ∧
    Reference.resolve module.uri request.specifier = .ok target

/-- What a request comes to mean. -/
inductive Targets (cache : RawCache) (request : Request) (target : String) : Prop
  | named (h : request.specifier = target)
  | against (h : Against cache request target)
  | running (h : InRunning cache request target)

/-- A URL that a reference means in the running module does not open to anything. -/
structure Lost (cache : RawCache) (request : Request) (target : String) : Prop where
  running : InRunning cache request target
  url : Reference.isAbsolute target = true
  gone : ∀ artifact, openDirectly request.env target ≠ .ok (some artifact)

/-! ### What it is answered with -/

section Answers

variable {cache : RawCache} {request : Request} {target : String} {artifact : Artifact}

theorem Keeps.get? {env : Environment} {x : Outcome × RawCache} (h : Keeps env cache x)
    (hheld : cache.get? target = some artifact) : x.2.get? target = some artifact := by
  obtain ⟨more, heq, -⟩ := h.adds.1
  exact RawCache.get?_of_prefix ⟨more, heq.symm⟩ hheld

theorem Against.serve_of_held (h : Against cache request target)
    (hfree : cache.get? request.specifier = none) (hheld : cache.get? target = some artifact) :
    (serve cache request).1 = .ok (some ⟨artifact, some (.raw target)⟩) := by
  obtain ⟨name, found, hbase, hfound, htarget⟩ := h.based
  have hlater := (findAlone_keeps request.env cache name).get? hheld
  unfold serve
  rw [hbase, findIn_of_based hfree h.relative, hfound]
  simp only
  rw [findAgainst_of_target htarget, findAlone_of_held hlater]

/-- Without a base that is found, the running module is asked. -/
theorem InRunning.serve_eq (h : InRunning cache request target)
    (hfree : cache.get? request.specifier = none) :
    ∃ module, Reference.resolve module.uri request.specifier = .ok target ∧
      (serve cache request).1 = orLiteral request.env request.specifier
        (findInContext request.env cache module request.specifier).1 := by
  obtain ⟨module, hcontext, htarget⟩ := h.running
  refine ⟨module, htarget, ?_⟩
  have hunbased : (findUnbased request.env cache request.specifier request.context).1
      = orLiteral request.env request.specifier
        (findInContext request.env cache module request.specifier).1 := by
    rw [hcontext, findUnbased_some]
  unfold serve
  rcases hbase : request.base with _ | name
  · rw [findIn_of_unbased hfree h.relative]
    exact hunbased
  · have hmissed := h.unbased name hbase
    have hsame : (findAlone request.env cache name).2 = cache :=
      (findAlone_keeps request.env cache name).adds.2 (by rw [hmissed]; exact nofun)
    rw [findIn_of_based hfree h.relative, hmissed, hsame]
    exact hunbased

/-- A path is looked up, and a URL that opens to something is handed out as it is held. -/
theorem InRunning.serve_of_held (h : InRunning cache request target)
    (hfree : cache.get? request.specifier = none) (hheld : cache.get? target = some artifact)
    (hopens : Reference.isAbsolute target = true →
      ∃ other, openDirectly request.env target = .ok (some other)) :
    (serve cache request).1 = .ok (some ⟨artifact, some (.raw target)⟩) := by
  obtain ⟨module, htarget, hserve⟩ := h.serve_eq hfree
  rw [hserve]
  by_cases habs : Reference.isAbsolute target = true
  · obtain ⟨other, hopened⟩ := hopens habs
    rw [findInContext_of_url htarget habs, hopened, keeping_some, RawCache.remember_of_held hheld]
    rfl
  · rw [findInContext_of_path htarget habs, findAlone_of_held hheld]
    rfl

/-- A URL that opens to nothing is not found, whatever is held under it. -/
theorem Lost.serve_eq (h : Lost cache request target)
    (hfree : cache.get? request.specifier = none) :
    (serve cache request).1 = orLiteral request.env request.specifier
      (passing (openDirectly request.env target)) := by
  obtain ⟨module, htarget, hserve⟩ := h.running.serve_eq hfree
  rw [hserve, findInContext_of_url htarget h.url]
  rcases hopened : openDirectly request.env target with e | _ | other
  · rfl
  · rfl
  · exact absurd hopened (h.gone other)

/-- What comes of a URL that opens to nothing is not what is held. -/
theorem Lost.serve_ne (h : Lost cache request target)
    (hfree : cache.get? request.specifier = none) :
    (serve cache request).1 ≠ .ok (some ⟨artifact, some (.raw target)⟩) := by
  rw [h.serve_eq hfree]
  rcases hopened : openDirectly request.env target with e | _ | other
  · exact nofun
  · exact passing_ne_kept _ _ _
  · exact absurd hopened (h.gone other)

end Answers

/-- **What is held is handed out again, unless it is a URL that is lost.**  Whatever there was to
be found when it was kept and whatever has been asked for since: a request that comes to mean a
name under which a module is held is answered with this module if and only if the name is not a
URL that a reference means in the running module and that opens to nothing any more.  Such a
request is answered by what has become of the URL, or by the text of the reference if it has
gone.  The module is held all the same. -/
theorem answers_stable (past later : List Request) (request : Request) :
    let last := afterAll (afterAll {} past) later
    ∀ entry ∈ (afterAll {} past).entries, Targets last request entry.1 →
      ((serve last request).1 = .ok (some ⟨entry.2, some (.raw entry.1)⟩) ↔
        ¬ Lost last request entry.1) ∧
      (Lost last request entry.1 → (serve last request).1 =
        orLiteral request.env request.specifier (passing (openDirectly request.env entry.1))) ∧
      (serve last request).2.get? entry.1 = some entry.2 := by
  intro last entry hentry htargets
  have hpast := sound_afterAll past
  have hlast : Sound last := hpast.after later
  have hlater : (afterAll {} past).entries <+: last.entries := afterAll_prefix later _
  have hnext : last.entries <+: (serve last request).2.entries := afterAll_prefix [request] last
  have hheld : last.get? entry.1 = some entry.2 :=
    RawCache.get?_of_prefix hlater (RawCache.get?_of_mem hpast.distinct entry hentry)
  have hstays : (serve last request).2.get? entry.1 = some entry.2 :=
    RawCache.get?_of_prefix hnext hheld
  have hfree (hrel : Reference.isRelative request.specifier = true) :
      last.get? request.specifier = none := hlast.get?_relative hrel
  have hlost (h : Lost last request entry.1) := h.serve_eq (hfree h.running.relative)
  refine ⟨⟨fun hanswer h => h.serve_ne (hfree h.running.relative) hanswer, fun hnot => ?_⟩,
    hlost, hstays⟩
  cases htargets with
  | named h =>
      unfold serve
      rw [h, findIn_of_held hheld]
  | against h => exact h.serve_of_held (hfree h.relative) hheld
  | running h =>
      refine h.serve_of_held (hfree h.relative) hheld fun habs => ?_
      by_contra hnone
      exact hnot ⟨h, habs, fun other hother => hnone ⟨other, hother⟩⟩

/-- Packaged resources with one module, next to the packaged one that runs. -/
def packaged (contents : String) : Environment :=
  { resources := ⟨[.memory [("lib/x.js", contents.toUTF8)]]⟩ }

/-- The request of the module that runs for the one next to it. -/
def neighbourIn (env : Environment) : Request := ⟨env, "./x.js", none, some packagedMain⟩

/-- What has been found of the module at first. -/
def firstFound : Artifact := ⟨"classpath:/lib/x.js", "old"⟩

theorem held_firstFound :
    ("classpath:/lib/x.js", firstFound) ∈ (afterAll {} [neighbourIn (packaged "old")]).entries := by
  have hcache : (afterAll {} [neighbourIn (packaged "old")]).entries
      = [("classpath:/lib/x.js", firstFound)] := by rfl
  rw [hcache]
  exact List.mem_singleton_self _

theorem inRunning_neighbourIn (cache : RawCache) (env : Environment) :
    InRunning cache (neighbourIn env) "classpath:/lib/x.js" := by
  have hrel : Reference.isRelative "./x.js" = true := by decide
  have htarget : Reference.resolve packagedMain.uri "./x.js" = .ok "classpath:/lib/x.js" := by rfl
  exact ⟨hrel, nofun, packagedMain, rfl, htarget⟩

/-- A packaged module that has been replaced is still handed out as it was found at first. -/
theorem answers_stable_replaced :
    let last := afterAll (afterAll {} [neighbourIn (packaged "old")]) [neighbourIn (packaged "new")]
    ("classpath:/lib/x.js", firstFound) ∈ (afterAll {} [neighbourIn (packaged "old")]).entries ∧
      Targets last (neighbourIn (packaged "new")) "classpath:/lib/x.js" ∧
      (serve last (neighbourIn (packaged "new"))).1
        = .ok (some ⟨firstFound, some (.raw "classpath:/lib/x.js")⟩) := by
  intro last
  have htargets : Targets last (neighbourIn (packaged "new")) "classpath:/lib/x.js" :=
    .running (inRunning_neighbourIn last _)
  refine ⟨held_firstFound, htargets, ?_⟩
  refine (answers_stable _ _ (neighbourIn (packaged "new")) _ held_firstFound htargets).1.mpr ?_
  intro hlost
  exact hlost.gone ⟨"classpath:/lib/x.js", "new"⟩ (by rfl)

/-- A packaged module that has gone is not found any more, though it is held. -/
theorem serve_lost :
    let cache := afterAll {} [neighbourIn (packaged "old")]
    cache.get? "classpath:/lib/x.js" = some firstFound ∧
      Targets cache (neighbourIn {}) "classpath:/lib/x.js" ∧
      (serve cache (neighbourIn {})).1 = .ok none := by
  intro cache
  have hgone : openDirectly {} "classpath:/lib/x.js" = .ok none := by rfl
  have hlost : Lost cache (neighbourIn {}) "classpath:/lib/x.js" := by
    refine ⟨inRunning_neighbourIn cache {}, by decide, fun artifact hopened => ?_⟩
    cases hgone.symm.trans hopened
  refine ⟨by rfl, .running hlost.running, ?_⟩
  have hnone : search {} "./x.js" = .ok none := search_absent (by rfl) rfl (by decide)
  rw [hlost.serve_eq (by rfl)]
  show orLiteral {} "./x.js" (passing (openDirectly {} "classpath:/lib/x.js")) = .ok none
  rw [hgone]
  show passing (search {} "./x.js") = .ok none
  rw [hnone]
  rfl

end ModuleLoader.Search
