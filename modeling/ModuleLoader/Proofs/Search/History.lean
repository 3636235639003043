/-
Whether answers depend on what was asked before.

Everything is found in the same environment here, and requests come one after the other.  A
cache recalls if what is held under a name is what looking the name up finds.  A request on such
a cache is answered as on an empty one, and leaves a cache that recalls, with one exception: a
reference that comes to a URL in the running module is not looked up but opened, and what it
opens to is kept under the URL.  If looking the URL up finds something else, because a file of
the archive or a packaged module goes by that name, or nothing, because the text does not look
like a URL, then the answer to a later request depends on it.

So answers are independent of what was asked before as long as the URLs that running modules
lead to agree with their lookups (`serve_afterAll`), and in no environment in which one of them
does not (`serve_depends`).
-/
import ModuleLoader.Proofs.Search.Entries
import ModuleLoader.Proofs.Search.Plain

namespace ModuleLoader.Search

open OnDemand (Request)

variable {env : Environment} {cache : RawCache}

/-! ### Caches that recall -/

/-- What is held under a name is what looking the name up finds. -/
def Recalls (env : Environment) (cache : RawCache) : Prop :=
  ∀ key artifact, cache.get? key = some artifact →
    Reference.isRelative key = false ∧ search env key = .ok (some artifact)

theorem recalls_empty (env : Environment) : Recalls env {} := by
  intro key artifact hheld
  cases hheld

theorem Recalls.remember (h : Recalls env cache) {key : String} {artifact : Artifact}
    (hfresh : Reference.isRelative key = false)
    (hfound : search env key = .ok (some artifact)) :
    Recalls env (cache.remember key artifact).2 := by
  intro name held hheld
  rw [RawCache.get?_remember] at hheld
  by_cases hname : name = key
  · rw [if_pos hname] at hheld
    subst hname
    rcases hold : cache.get? name with _ | old
    · rw [hold] at hheld
      cases hheld
      exact ⟨hfresh, hfound⟩
    · rw [hold] at hheld
      cases hheld
      exact h name old hold
  · rw [if_neg hname] at hheld
    exact h name held hheld

/-- The URL opens to nothing but what looking it up finds. -/
def Agrees (env : Environment) (url : String) : Prop :=
  ∀ artifact, openDirectly env url = .ok (some artifact) → search env url = .ok (some artifact)

/-- The relative reference comes to a URL in the module. -/
def LeadsToUrl (module : Artifact) (reference url : String) : Prop :=
  Reference.isRelative reference = true ∧
    Reference.resolve module.uri reference = .ok url ∧ Reference.isAbsolute url = true

/-! ### Searches on caches that recall -/

/-- The answer is that which an empty cache gives, and what is left recalls. -/
structure AsFresh (env : Environment) (fresh : Outcome × RawCache) (x : Outcome × RawCache) :
    Prop where
  answer : x.1 = fresh.1
  recalls : Recalls env x.2

theorem keeping_asFresh (h : Recalls env cache) {key : String}
    {result : Except LoadError (Option Artifact)} (hfresh : Reference.isRelative key = false)
    (hresult : ∀ artifact, result = .ok (some artifact) →
      search env key = .ok (some artifact)) :
    AsFresh env (keeping {} key result) (keeping cache key result) := by
  rcases result with e | _ | artifact
  · exact ⟨rfl, h⟩
  · exact ⟨rfl, h⟩
  · have hfound := hresult artifact rfl
    rw [keeping_some, keeping_some]
    refine ⟨?_, h.remember hfresh hfound⟩
    rw [RawCache.remember_fst, RawCache.remember_fst]
    rcases hheld : cache.get? key with _ | old
    · rfl
    · obtain ⟨-, hold⟩ := h key old hheld
      rw [hfound] at hold
      cases hold
      rfl

theorem findAlone_asFresh (h : Recalls env cache) (name : String) :
    AsFresh env (findAlone env {} name) (findAlone env cache name) := by
  rcases hheld : cache.get? name with _ | artifact
  · by_cases hrel : Reference.isRelative name = true
    · rw [findAlone_of_relative hheld hrel, findAlone_of_relative rfl hrel]
      exact ⟨rfl, h⟩
    · have hfresh := Bool.eq_false_iff.mpr hrel
      rw [findAlone_of_fresh hheld hfresh, findAlone_of_fresh rfl hfresh]
      exact keeping_asFresh h hfresh fun artifact hfound => hfound
  · obtain ⟨hfresh, hfound⟩ := h name artifact hheld
    rw [findAlone_of_held hheld, findAlone_of_fresh rfl hfresh, hfound]
    exact ⟨rfl, h⟩

theorem findAgainst_asFresh (h : Recalls env cache) (base : Artifact) (specifier : String) :
    AsFresh env (findAgainst env {} base specifier) (findAgainst env cache base specifier) := by
  unfold findAgainst
  rcases Reference.resolve base.uri specifier with cause | target
  · exact ⟨rfl, h⟩
  · exact findAlone_asFresh h target

theorem findInContext_asFresh (h : Recalls env cache) {context : Artifact} {specifier : String}
    (hrel : Reference.isRelative specifier = true)
    (hagrees : ∀ url, LeadsToUrl context specifier url → Agrees env url) :
    AsFresh env (findInContext env {} context specifier)
      (findInContext env cache context specifier) := by
  rcases hresolve : Reference.resolve context.uri specifier with cause | target
  · unfold findInContext
    rw [hresolve]
    exact ⟨rfl, h⟩
  · by_cases habs : Reference.isAbsolute target = true
    · rw [findInContext_of_url hresolve habs, findInContext_of_url hresolve habs]
      exact keeping_asFresh h (Reference.isRelative_of_isAbsolute habs)
        (hagrees target ⟨hrel, hresolve, habs⟩)
    · rw [findInContext_of_path hresolve habs, findInContext_of_path hresolve habs]
      exact findAlone_asFresh h target

theorem findUnbased_asFresh (h : Recalls env cache) {specifier : String}
    {context : Option Artifact} (hrel : Reference.isRelative specifier = true)
    (hagrees : ∀ running ∈ context, ∀ url, LeadsToUrl running specifier url → Agrees env url) :
    AsFresh env (findUnbased env {} specifier context)
      (findUnbased env cache specifier context) := by
  rcases context with _ | context
  · exact ⟨rfl, h⟩
  · obtain ⟨hanswer, hrecalls⟩ := findInContext_asFresh h hrel (hagrees context rfl)
    rw [findUnbased_some, findUnbased_some, hanswer]
    exact ⟨rfl, hrecalls⟩

/-- On a cache that recalls, a request is answered as on an empty one. -/
theorem serve_asFresh (h : Recalls env cache) {request : Request} (henv : request.env = env)
    (hagrees : ∀ running ∈ request.context, ∀ url,
      LeadsToUrl running request.specifier url → Agrees env url) :
    AsFresh env (serve {} request) (serve cache request) := by
  obtain ⟨own, specifier, base, context⟩ := request
  obtain rfl : own = env := henv
  unfold serve
  rcases hheld : cache.get? specifier with _ | artifact
  · by_cases hrel : Reference.isRelative specifier = true
    · rcases base with _ | name
      · rw [findIn_of_unbased hheld hrel, findIn_of_unbased rfl hrel]
        exact findUnbased_asFresh h hrel hagrees
      · -- What an empty cache keeps of the base recalls as well.
        have hbase := findAlone_asFresh h name
        have hempty := findAlone_asFresh (recalls_empty own) name
        rw [findIn_of_based hheld hrel, findIn_of_based rfl hrel, hbase.answer]
        rcases (findAlone own {} name).1 with e | _ | found
        · exact ⟨rfl, hbase.recalls⟩
        · have hcache := findUnbased_asFresh hbase.recalls hrel hagrees
          have hfresh := findUnbased_asFresh hempty.recalls hrel hagrees
          exact ⟨hcache.answer.trans hfresh.answer.symm, hcache.recalls⟩
        · have hcache := findAgainst_asFresh hbase.recalls found.artifact specifier
          have hfresh := findAgainst_asFresh hempty.recalls found.artifact specifier
          exact ⟨hcache.answer.trans hfresh.answer.symm, hcache.recalls⟩
    · have hfresh := Bool.eq_false_iff.mpr hrel
      rw [findIn_of_fresh hheld hfresh, findIn_of_fresh rfl hfresh]
      exact keeping_asFresh h hfresh fun artifact hfound => hfound
  · obtain ⟨hfresh, hfound⟩ := h specifier artifact hheld
    rw [findIn_of_held hheld, findIn_of_fresh rfl hfresh, hfound]
    exact ⟨rfl, h⟩

/-! ### Histories -/

/-- The URLs that the reference comes to in the running module agree with their lookups. -/
def Agreeable (env : Environment) (request : Request) : Prop :=
  ∀ running ∈ request.context, ∀ url, LeadsToUrl running request.specifier url → Agrees env url

theorem recalls_afterAll {requests : List Request}
    (hrequests : ∀ request ∈ requests, request.env = env ∧ Agreeable env request) :
    ∀ {cache : RawCache}, Recalls env cache → Recalls env (afterAll cache requests) := by
  induction requests with
  | nil => intro cache h; exact h
  | cons request rest ih =>
      intro cache h
      obtain ⟨henv, hagrees⟩ := hrequests request List.mem_cons_self
      exact ih (fun other hother => hrequests other (List.mem_cons_of_mem _ hother))
        (serve_asFresh h henv hagrees).recalls

/-- **Answers do not depend on what was asked before** where the URLs that running modules lead
to agree with their lookups. -/
theorem serve_afterAll {past : List Request} {request : Request}
    (hrequests : ∀ other ∈ request :: past, other.env = env ∧ Agreeable env other) :
    (serve (afterAll {} past) request).1 = (serve {} request).1 := by
  obtain ⟨henv, hagrees⟩ := hrequests request List.mem_cons_self
  have hpast := recalls_afterAll (fun other hother => hrequests other (List.mem_cons_of_mem _ hother))
    (recalls_empty env)
  exact (serve_asFresh hpast henv hagrees).answer

/-- Whatever is kept was found under its name or opened as the URL that it is. -/
theorem origin_afterAll {requests : List Request} (henv : ∀ request ∈ requests, request.env = env) :
    ∀ entry ∈ (afterAll {} requests).entries, Origin env entry.1 entry.2 := by
  refine afterAll_preserves (I := fun cache => ∀ entry ∈ cache.entries, Origin env entry.1 entry.2)
    ?_ ?_
  · intro request hrequest cache key artifact h _ horigin
    rw [henv request hrequest] at horigin
    exact RawCache.forall_add h horigin
  · intro entry hentry
    cases hentry

/-! ### Where answers depend on what was asked before -/

/-- A lookup that nothing was asked before answers with an artifact if and only if it finds it. -/
theorem serve_fresh_iff {name : String} (hfresh : Reference.isRelative name = false)
    (artifact : Artifact) :
    (serve {} ⟨env, name, none, none⟩).1 = .ok (some ⟨artifact, some (.raw name)⟩) ↔
      search env name = .ok (some artifact) := by
  unfold serve
  rw [findIn_of_fresh rfl hfresh]
  rcases search env name with e | _ | found
  · simp [keeping]
  · simp [keeping]
  · rw [keeping_some, RawCache.remember_of_none rfl]
    simp

/-- Once a running module has led to a URL, what the URL opens to is what looking it up
answers with. -/
theorem serve_depends {running : Artifact} {reference url : String}
    (hleads : LeadsToUrl running reference url) {artifact : Artifact}
    (hopened : openDirectly env url = .ok (some artifact)) :
    (serve (afterAll {} [⟨env, reference, none, some running⟩]) ⟨env, url, none, none⟩).1
      = .ok (some ⟨artifact, some (.raw url)⟩) := by
  obtain ⟨hrel, hresolve, habs⟩ := hleads
  have hfirst : (serve {} ⟨env, reference, none, some running⟩).2
      = RawCache.add {} url artifact := by
    unfold serve
    rw [findIn_of_unbased rfl hrel, findUnbased_some, findInContext_of_url hresolve habs, hopened,
      keeping_some, RawCache.remember_of_none rfl]
  have hheld : (afterAll {} [⟨env, reference, none, some running⟩]).get? url = some artifact := by
    show (serve {} ⟨env, reference, none, some running⟩).2.get? url = some artifact
    rw [hfirst]
    exact List.lookup_cons_self
  unfold serve
  rw [findIn_of_held hheld]

/-- **When answers depend on what was asked before.**  They do not, if the URLs that running
modules lead to in these requests agree with their lookups.  In any case what is kept is what a
lookup of its name finds, or what its name opens to as a URL.  And there are no requests at all
whose answers depend on others if and only if every URL that some module can lead to agrees
with its lookup. -/
theorem answers_independent (env : Environment) :
    (∀ past request, (∀ other ∈ request :: past, other.env = env ∧ Agreeable env other) →
      (serve (afterAll {} past) request).1 = (serve {} request).1) ∧
    (∀ past, (∀ other ∈ past, other.env = env) → ∀ entry ∈ (afterAll {} past).entries,
      Origin env entry.1 entry.2) ∧
    ((∀ past request, (∀ other ∈ request :: past, other.env = env) →
      (serve (afterAll {} past) request).1 = (serve {} request).1) ↔
        ∀ running reference url, LeadsToUrl running reference url → Agrees env url) := by
  refine ⟨fun past request => serve_afterAll, fun past => origin_afterAll, ?_, ?_⟩
  · intro hindependent running reference url hleads artifact hopened
    have hfresh := Reference.isRelative_of_isAbsolute hleads.2.2
    refine (serve_fresh_iff hfresh artifact).mp ?_
    rw [← hindependent [⟨env, reference, none, some running⟩] ⟨env, url, none, none⟩ (by simp)]
    exact serve_depends hleads hopened
  · intro hagrees past request henv
    refine serve_afterAll fun other hother => ⟨henv other hother, ?_⟩
    intro running _ url hleads
    exact hagrees running other.specifier url hleads

/-- Packaged resources, and an archive that has a file under the URL of one of them. -/
def shadowed : Environment :=
  { archive := .ofFiles [("classpath:/lib/x.js", "bundled")],
    resources := ⟨[.memory [("lib/x.js", "packaged".toUTF8), ("lib/y.js", "other".toUTF8)]]⟩ }

/-- The packaged module that runs. -/
def packagedMain : Artifact := ⟨"classpath:/lib/a.js", "main"⟩

/-- The file of the archive is not found any more once a packaged module has asked for the
resource next to it. -/
theorem serve_shadowed :
    (serve {} ⟨shadowed, "classpath:/lib/x.js", none, none⟩).1
      = .ok (some ⟨⟨"classpath:/lib/x.js", "bundled"⟩, some (.raw "classpath:/lib/x.js")⟩) ∧
    (serve (afterAll {} [⟨shadowed, "./x.js", none, some packagedMain⟩])
      ⟨shadowed, "classpath:/lib/x.js", none, none⟩).1
      = .ok (some ⟨⟨"classpath:/lib/x.js", "packaged"⟩, some (.raw "classpath:/lib/x.js")⟩) := by
  refine ⟨by rfl, ?_⟩
  exact serve_depends ⟨by decide, by rfl, by decide⟩ (by rfl)

theorem search_unshadowed :
    search shadowed "classpath:/lib/y.js" = .ok (some ⟨"classpath:/lib/y.js", "other"⟩) := by
  have hinner : innerName? shadowed.settings.dependencyMarker "classpath:/lib/y.js" = none :=
    innerName?_eq_none (c := 'n') (by decide) (by decide)
  have habsent : shadowed.archive.findFile "classpath:/lib/y.js" = none := by rfl
  unfold search candidates
  rw [habsent, hinner]
  rfl

/-- The resource that no file of the archive shadows is found whatever was asked before. -/
theorem answers_independent_unshadowed :
    (serve (afterAll {} [⟨shadowed, "./y.js", none, some packagedMain⟩])
      ⟨shadowed, "classpath:/lib/y.js", none, none⟩).1
      = (serve {} ⟨shadowed, "classpath:/lib/y.js", none, none⟩).1 := by
  refine (answers_independent shadowed).1 _ _ ?_
  intro other hother
  rcases List.mem_cons.mp hother with rfl | hother
  · exact ⟨rfl, by intro running hrunning; cases hrunning⟩
  · rw [List.mem_singleton.mp hother]
    refine ⟨rfl, ?_⟩
    intro running hrunning url hleads artifact hopened
    cases hrunning
    have hurl : Reference.resolve packagedMain.uri "./y.js" = .ok "classpath:/lib/y.js" := by rfl
    obtain rfl := Except.ok.inj (hurl.symm.trans hleads.2.1)
    have hother : openDirectly shadowed "classpath:/lib/y.js"
        = .ok (some ⟨"classpath:/lib/y.js", "other"⟩) := by rfl
    obtain rfl := Option.some.inj (Except.ok.inj (hother.symm.trans hopened))
    exact search_unshadowed

end ModuleLoader.Search
