/-
The names that modules are known by.

A search looks one name up in the end: the text that was asked for, or the name that a relative
reference leads to from its base or from the running module (`Denotes`).  Whatever is found is
known by that name, or by the URL that it spells.  So a module with a logical path for its
identity is known by the name that was looked up, letter by letter, and looking that name up
finds it again whatever else has been found by then.

The caches here are those that come about in one environment: everything they hold was found
under its name or opened as the URL that it is (`Grounded`).
-/
import ModuleLoader.Proofs.Search.Entries
import ModuleLoader.Proofs.Path.Ending

namespace ModuleLoader

namespace Search

variable {env : Environment} {cache after : RawCache} {name : String} {artifact : Artifact}

/-! ### Logical identities -/

/-- A module that is known by a logical path is known by the very name. -/
theorem KnownBy.uri_eq (h : KnownBy name artifact)
    (hlogical : Reference.isAbsolute artifact.uri = false) : artifact.uri = name := by
  rcases h with heq | ⟨url, hurl, heq⟩
  · exact heq
  · rw [heq, Url.isAbsolute_text (Url.parse_scheme hurl)] at hlogical
    cases hlogical

/-- What is found under a logical path is known by it. -/
theorem uri_of_search (hname : Reference.isAbsolute name = false)
    (h : search env name = .ok (some artifact)) : artifact.uri = name := by
  have hurl : openAsUrl env name = .ok none := by
    unfold openAsUrl
    rw [if_neg]
    intro hlooks
    rw [Reference.isAbsolute_of_looksLikeUrl hlooks] at hname
    cases hname
  unfold search at h
  rcases hfile : env.archive.findFile name with _ | contents
  · simp only [hfile] at h
    obtain ⟨candidate, hmem, hfound⟩ := firstOf_mem _ none h
    unfold candidates at hmem
    simp only [List.mem_append, List.mem_map, List.mem_cons, List.not_mem_nil, or_false] at hmem
    rcases hmem with (⟨inner, -, rfl⟩ | ⟨root, -, rfl⟩) | rfl | rfl
    · exact openResource_uri hfound
    · exact openResource_uri hfound
    · rw [hurl] at hfound
      cases hfound
    · exact openResource_uri hfound
  · simp only [hfile] at h
    cases h
    rfl

/-- What is kept under a logical path was found by looking it up. -/
theorem Origin.search_eq (h : Origin env name artifact) (hname : Reference.isAbsolute name = false) :
    search env name = .ok (some artifact) := by
  cases h with
  | found _ hfound => exact hfound
  | opened habs _ =>
      rw [habs] at hname
      cases hname

/-- Everything that is kept was found under its name or opened as the URL that it is. -/
def Grounded (env : Environment) (cache : RawCache) : Prop :=
  ∀ entry ∈ cache.entries, Origin env entry.1 entry.2

theorem grounded_empty (env : Environment) : Grounded env {} := by
  intro entry hentry
  cases hentry

theorem Grounded.get? (h : Grounded env cache) (hheld : cache.get? name = some artifact) :
    Origin env name artifact := h (name, artifact) (mem_of_lookup hheld)

theorem Grounded.add (h : Grounded env cache) (horigin : Origin env name artifact) :
    Grounded env (cache.add name artifact) := RawCache.forall_add h horigin

/-- A lookup leaves the cache grounded. -/
theorem Keeps.grounded {x : Outcome × RawCache} (h : Keeps env cache x) (hg : Grounded env cache) :
    Grounded env x.2 := h.preserves (fun _ _ _ h _ horigin => Grounded.add h horigin) hg

theorem Grounded.findIn (h : Grounded env cache) (specifier : String) (base : Option String)
    (context : Option Artifact) : Grounded env (findIn env cache specifier base context).2 :=
  (findIn_searches env cache specifier base context).preserves
    (fun _ _ _ h _ horigin => h.add horigin) h

/-- Everything that is kept is known by the name that it is kept under. -/
def Labelled (cache : RawCache) : Prop := ∀ entry ∈ cache.entries, KnownBy entry.1 entry.2

theorem labelled_empty : Labelled {} := by
  intro entry hentry
  cases hentry

theorem Grounded.labelled (h : Grounded env cache) : Labelled cache :=
  fun entry hentry => (h entry hentry).knownBy

theorem Labelled.get? (h : Labelled cache) (hheld : cache.get? name = some artifact) :
    KnownBy name artifact := h (name, artifact) (mem_of_lookup hheld)

theorem Labelled.add (h : Labelled cache) (horigin : Origin env name artifact) :
    Labelled (cache.add name artifact) := RawCache.forall_add h horigin.knownBy

theorem Keeps.labelled {x : Outcome × RawCache} (h : Keeps env cache x) (hl : Labelled cache) :
    Labelled x.2 := h.preserves (fun _ _ _ h _ horigin => Labelled.add h horigin) hl

theorem Labelled.findIn (h : Labelled cache) (specifier : String) (base : Option String)
    (context : Option Artifact) : Labelled (findIn env cache specifier base context).2 :=
  (findIn_searches env cache specifier base context).preserves
    (fun _ _ _ h _ horigin => h.add horigin) h

theorem Grounded.get?_relative (h : Grounded env cache) (hrel : Reference.isRelative name = true) :
    cache.get? name = none := by
  rcases hheld : cache.get? name with _ | artifact
  · rfl
  · rw [(h.get? hheld).fresh] at hrel
    cases hrel

/-! ### What is handed out -/

/-- The artifact is kept under the name, or the name is relative and finds it. -/
inductive HandsOut (env : Environment) (cache : RawCache) (name : String) : Found → Prop
  | kept (artifact : Artifact) (hheld : cache.get? name = some artifact) :
      HandsOut env cache name ⟨artifact, some (.raw name)⟩
  | passed (artifact : Artifact) (hrel : Reference.isRelative name = true)
      (hfound : search env name = .ok (some artifact)) :
      HandsOut env cache name ⟨artifact, none⟩

theorem HandsOut.knownBy {found : Found} (hl : Labelled cache)
    (h : HandsOut env cache name found) : KnownBy name found.artifact := by
  cases h with
  | kept artifact hheld => exact hl.get? hheld
  | passed artifact hrel hfound => exact search_knownBy hfound

/-- What is handed out under a logical path is known by it. -/
theorem HandsOut.uri_eq {found : Found} (hg : Grounded env cache)
    (h : HandsOut env cache name found) (hname : Reference.isAbsolute name = false) :
    found.artifact.uri = name := by
  cases h with
  | kept artifact hheld => exact uri_of_search hname ((hg.get? hheld).search_eq hname)
  | passed artifact hrel hfound => exact uri_of_search hname hfound

/-- What was handed out under a name is handed out again, and nothing else is kept. -/
theorem HandsOut.findAlone {found : Found} (hg : Grounded env cache)
    (h : HandsOut env cache name found) : findAlone env cache name = (.ok (some found), cache) := by
  cases h with
  | kept artifact hheld => exact findAlone_of_held hheld
  | passed artifact hrel hfound =>
      rw [findAlone_of_relative (hg.get?_relative hrel) hrel, hfound]
      rfl

theorem HandsOut.mono {found : Found} (h : HandsOut env cache name found)
    (hlarger : cache.entries <+: after.entries) : HandsOut env after name found := by
  cases h with
  | kept artifact hheld => exact .kept artifact (RawCache.get?_of_prefix hlarger hheld)
  | passed artifact hrel hfound => exact .passed artifact hrel hfound

theorem keeping_handsOut {result : Except LoadError (Option Artifact)} {found : Found}
    (h : (keeping cache name result).1 = .ok (some found)) :
    HandsOut env (keeping cache name result).2 name found := by
  rcases result with e | _ | artifact
  · cases h
  · cases h
  · rw [keeping_some, RawCache.remember_fst] at h
    cases h
    refine .kept _ ?_
    rw [keeping_some, RawCache.get?_remember, if_pos rfl]

theorem passing_handsOut (hrel : Reference.isRelative name = true) {found : Found}
    (h : passing (search env name) = .ok (some found)) : HandsOut env cache name found := by
  rcases hsearch : search env name with e | _ | artifact
  · rw [hsearch] at h
    cases h
  · rw [hsearch] at h
    cases h
  · rw [hsearch] at h
    cases h
    exact .passed artifact hrel hsearch

theorem findAlone_handsOut {found : Found} (h : (findAlone env cache name).1 = .ok (some found)) :
    HandsOut env (findAlone env cache name).2 name found := by
  rcases hheld : cache.get? name with _ | artifact
  · by_cases hrel : Reference.isRelative name = true
    · rw [findAlone_of_relative hheld hrel] at h ⊢
      exact passing_handsOut hrel h
    · rw [findAlone_of_fresh hheld (Bool.eq_false_iff.mpr hrel)] at h ⊢
      exact keeping_handsOut h
  · rw [findAlone_of_held hheld] at h ⊢
    cases h
    exact .kept artifact hheld

/-- A name that nothing is found under finds nothing when it is looked up. -/
theorem search_of_findAlone_none (h : (findAlone env cache name).1 = .ok none) :
    search env name = .ok none := by
  rcases hheld : cache.get? name with _ | artifact
  · by_cases hrel : Reference.isRelative name = true
    · rw [findAlone_of_relative hheld hrel] at h
      exact passing_eq_none_iff.mp h
    · rw [findAlone_of_fresh hheld (Bool.eq_false_iff.mpr hrel)] at h
      rcases hsearch : search env name with e | _ | artifact
      · rw [hsearch] at h
        cases h
      · rfl
      · rw [hsearch] at h
        cases h
  · rw [findAlone_of_held hheld] at h
    cases h

/-- Where nothing is found under a logical path, nothing is handed out under it. -/
theorem findAlone_of_unfound (hg : Grounded env cache) (hname : Reference.isAbsolute name = false)
    (h : search env name = .ok none) : findAlone env cache name = (.ok none, cache) := by
  rcases hheld : cache.get? name with _ | artifact
  · by_cases hrel : Reference.isRelative name = true
    · rw [findAlone_of_relative hheld hrel, h]
      rfl
    · exact findAlone_of_absent hheld (Bool.eq_false_iff.mpr hrel) h
  · rw [(hg.get? hheld).search_eq hname] at h
    cases h

/-! ### What specifiers mean -/

/-- The names that a specifier may be looked up under: its text, and if it is relative, what it
leads to from the module that its base names or from the running module. -/
inductive Denotes (specifier : String) (base : Option String) (context : Option Artifact) :
    String → Prop
  | text : Denotes specifier base context specifier
  | against (name : String) (origin : Artifact) (target : String) (hbase : base = some name)
      (hknown : KnownBy name origin) (hrel : Reference.isRelative specifier = true)
      (hresolve : Reference.resolve origin.uri specifier = .ok target) :
      Denotes specifier base context target
  | running (origin : Artifact) (target : String) (hcontext : context = some origin)
      (hrel : Reference.isRelative specifier = true)
      (hresolve : Reference.resolve origin.uri specifier = .ok target) :
      Denotes specifier base context target

theorem findInContext_handsOut {context : Artifact} {specifier : String} {found : Found}
    (h : (findInContext env cache context specifier).1 = .ok (some found)) :
    ∃ target, Reference.resolve context.uri specifier = .ok target ∧
      HandsOut env (findInContext env cache context specifier).2 target found := by
  rcases hresolve : Reference.resolve context.uri specifier with cause | target
  · unfold findInContext at h
    rw [hresolve] at h
    cases h
  · refine ⟨target, rfl, ?_⟩
    by_cases habs : Reference.isAbsolute target = true
    · rw [findInContext_of_url hresolve habs] at h ⊢
      exact keeping_handsOut h
    · rw [findInContext_of_path hresolve habs] at h ⊢
      exact findAlone_handsOut h

theorem findUnbased_handsOut {specifier : String} {base : Option String}
    {context : Option Artifact} (hrel : Reference.isRelative specifier = true) {found : Found}
    (h : (findUnbased env cache specifier context).1 = .ok (some found)) :
    ∃ name, Denotes specifier base context name ∧
      HandsOut env (findUnbased env cache specifier context).2 name found := by
  rcases context with _ | context
  · exact ⟨specifier, .text, passing_handsOut hrel h⟩
  · rw [findUnbased_some] at h ⊢
    rcases hcontext : (findInContext env cache context specifier).1 with e | _ | other
    · rw [hcontext] at h
      cases h
    · rw [hcontext] at h
      exact ⟨specifier, .text, passing_handsOut hrel h⟩
    · rw [hcontext] at h
      cases h
      obtain ⟨target, hresolve, hhands⟩ := findInContext_handsOut hcontext
      exact ⟨target, .running context target rfl hrel hresolve, hhands⟩

/-- **What is found is handed out under one of the names that the specifier means.** -/
theorem findIn_handsOut (hl : Labelled cache) {specifier : String} {base : Option String}
    {context : Option Artifact} {found : Found}
    (h : (findIn env cache specifier base context).1 = .ok (some found)) :
    ∃ name, Denotes specifier base context name ∧
      HandsOut env (findIn env cache specifier base context).2 name found := by
  rcases hheld : cache.get? specifier with _ | artifact
  · by_cases hrel : Reference.isRelative specifier = true
    · rcases base with _ | base
      · rw [findIn_of_unbased hheld hrel] at h ⊢
        exact findUnbased_handsOut hrel h
      · rw [findIn_of_based hheld hrel] at h ⊢
        rcases hbase : (findAlone env cache base).1 with e | _ | origin
        · rw [hbase] at h
          cases h
        · rw [hbase] at h
          exact findUnbased_handsOut hrel h
        · rw [hbase] at h
          have hknown : KnownBy base origin.artifact :=
            (findAlone_handsOut hbase).knownBy ((findAlone_keeps env cache base).labelled hl)
          rcases hresolve : Reference.resolve origin.artifact.uri specifier with cause | target
          · unfold findAgainst at h
            simp only [hresolve] at h
            cases h
          · simp only [findAgainst_of_target hresolve] at h ⊢
            exact ⟨target, .against base origin.artifact target rfl hknown hrel hresolve,
              findAlone_handsOut h⟩
    · rw [findIn_of_fresh hheld (Bool.eq_false_iff.mpr hrel)] at h ⊢
      exact ⟨specifier, .text, keeping_handsOut h⟩
  · rw [findIn_of_held hheld] at h ⊢
    cases h
    exact ⟨specifier, .text, .kept artifact hheld⟩

/-- A logical path that a specifier means is its text, or what it leads to from another logical
path: that of its base, or that of the running module. -/
theorem Denotes.of_logical {specifier : String} {base : Option String} {context : Option Artifact}
    (h : Denotes specifier base context name) (hname : Reference.isAbsolute name = false) :
    name = specifier ∨ ∃ origin,
      (base = some origin ∨ ∃ running, context = some running ∧ running.uri = origin) ∧
        Reference.isAbsolute origin = false ∧ Reference.isRelative specifier = true ∧
        Reference.resolve origin specifier = .ok name := by
  have hurl : ∀ {origin : Artifact}, Reference.isAbsolute origin.uri = true →
      Reference.resolve origin.uri specifier = .ok name → name = specifier := by
    intro origin habs hresolve
    rcases Reference.resolve_of_url habs hresolve with htarget | hliteral
    · rw [htarget] at hname
      cases hname
    · exact Except.ok.inj (hresolve.symm.trans (hliteral specifier))
  cases h with
  | text => exact Or.inl rfl
  | against base origin target hbase hknown hrel hresolve =>
      by_cases habs : Reference.isAbsolute origin.uri = true
      · exact Or.inl (hurl habs hresolve)
      · have hlogical := Bool.eq_false_iff.mpr habs
        have huri := hknown.uri_eq hlogical
        rw [huri] at hlogical hresolve
        exact Or.inr ⟨base, Or.inl hbase, hlogical, hrel, hresolve⟩
  | running origin target hcontext hrel hresolve =>
      by_cases habs : Reference.isAbsolute origin.uri = true
      · exact Or.inl (hurl habs hresolve)
      · exact Or.inr ⟨origin.uri, Or.inr ⟨origin, hcontext, rfl⟩, Bool.eq_false_iff.mpr habs, hrel,
          hresolve⟩

/-! ### Modules that are not found though their sources are

A source is found where its module would have been, if the module had been found.  So the name
that the source's module goes by finds nothing.
-/

/-- Nothing is found under the name of the source's module. -/
def Unmade (env : Environment) (source : String) : Prop :=
  ∃ name, env.settings.convention.sourceCounterpart name = some source ∧
    search env name = .ok none

section Counterpart

variable {specifier counterpart : String} {context : Option Artifact} {found : Found}

theorem findAgainst_counterpart (hg : Grounded env after)
    (hendings : env.settings.convention.Endings)
    (hname : env.settings.convention.sourceCounterpart specifier = some counterpart)
    (hrel : Reference.isRelative specifier = true) {base : Artifact}
    (hmiss : (findAgainst env cache base specifier).1 = .ok none)
    (hfound : (findAgainst env after base counterpart).1 = .ok (some found))
    (hlogical : Reference.isAbsolute found.artifact.uri = false) :
    Unmade env found.artifact.uri := by
  rcases hsource : Reference.resolve base.uri counterpart with cause | source
  · unfold findAgainst at hfound
    rw [hsource] at hfound
    cases hfound
  · rw [findAgainst_of_target hsource] at hfound
    have hknown :=
      (findAlone_handsOut hfound).knownBy ((findAlone_keeps env after source).labelled hg.labelled)
    have huri := hknown.uri_eq hlogical
    rw [huri] at hlogical ⊢
    obtain ⟨target, htarget, hcounterpart⟩ :=
      SuffixConvention.resolve_of_sourceCounterpart hendings hname hrel hsource hlogical
    rw [findAgainst_of_target htarget] at hmiss
    exact ⟨target, hcounterpart, search_of_findAlone_none hmiss⟩

theorem passing_counterpart (hg : Grounded env after)
    (hendings : env.settings.convention.Endings)
    (hname : env.settings.convention.sourceCounterpart specifier = some counterpart)
    (hrel : Reference.isRelative specifier = true) (hmiss : search env specifier = .ok none)
    (hfound : passing (search env counterpart) = .ok (some found))
    (hlogical : Reference.isAbsolute found.artifact.uri = false) :
    Unmade env found.artifact.uri := by
  have hcounterpart : Reference.isRelative counterpart = true := by
    rw [SuffixConvention.isRelative_sourceCounterpart hendings hname, hrel]
  have hknown := (passing_handsOut hcounterpart hfound).knownBy hg.labelled
  rw [hknown.uri_eq hlogical]
  exact ⟨specifier, hname, hmiss⟩

theorem findUnbased_counterpart (hg : Grounded env after)
    (hendings : env.settings.convention.Endings)
    (hname : env.settings.convention.sourceCounterpart specifier = some counterpart)
    (hrel : Reference.isRelative specifier = true)
    (hmiss : (findUnbased env cache specifier context).1 = .ok none)
    (hfound : (findUnbased env after counterpart context).1 = .ok (some found))
    (hlogical : Reference.isAbsolute found.artifact.uri = false) :
    Unmade env found.artifact.uri := by
  rcases context with _ | context
  · exact passing_counterpart hg hendings hname hrel (passing_eq_none_iff.mp hmiss) hfound hlogical
  · rw [findUnbased_some] at hmiss hfound
    have hcontext := orLiteral_eq_none hmiss
    have hnone := orLiteral_eq_iff.mp (hmiss.trans hcontext.symm) hcontext
    rcases hsource : (findInContext env after context counterpart).1 with e | _ | other
    · rw [hsource] at hfound
      cases hfound
    · rw [hsource] at hfound
      exact passing_counterpart hg hendings hname hrel hnone hfound hlogical
    · rw [hsource] at hfound
      cases hfound
      obtain ⟨source, hresolve, hhands⟩ := findInContext_handsOut hsource
      have hknown :=
        hhands.knownBy ((findInContext_keeps env after context counterpart).labelled hg.labelled)
      have huri := hknown.uri_eq hlogical
      rw [huri] at hlogical ⊢
      obtain ⟨target, htarget, hcounterpart⟩ :=
        SuffixConvention.resolve_of_sourceCounterpart hendings hname hrel hresolve hlogical
      have habs : Reference.isAbsolute target ≠ true := by
        rw [← SuffixConvention.isAbsolute_sourceCounterpart hendings hcounterpart, hlogical]
        exact Bool.false_ne_true
      rw [findInContext_of_path htarget habs] at hcontext
      exact ⟨target, hcounterpart, search_of_findAlone_none hcontext⟩

/-- A search that finds nothing has kept at most its base, so the next one finds the same base. -/
theorem Keeps.base_again {base : String} {x : Outcome × RawCache} {known : RawCache}
    (h : Keeps env (findAlone env cache base).2 x) (hmiss : x = (.ok none, known)) :
    (findAlone env known base).1 = (findAlone env cache base).1 := by
  have hsame : x.2 = (findAlone env cache base).2 := by
    refine h.adds.2 fun other hother => ?_
    rw [hmiss] at hother
    cases hother
  rw [hmiss] at hsame
  rw [show known = (findAlone env cache base).2 from hsame]
  exact findAlone_again base base

/-- **Where the source of a module is found and the module is not, nothing is found under the
name of the source's module.** -/
theorem findIn_counterpart (hg : Grounded env cache) (hendings : env.settings.convention.Endings)
    (hname : env.settings.convention.sourceCounterpart specifier = some counterpart)
    {base : Option String} {known : RawCache}
    (hmiss : findIn env cache specifier base context = (.ok none, known))
    (hfound : (findIn env known counterpart base context).1 = .ok (some found))
    (hlogical : Reference.isAbsolute found.artifact.uri = false) :
    Unmade env found.artifact.uri := by
  have hknown : Grounded env known := by
    have hkept := hg.findIn specifier base context
    rwa [hmiss] at hkept
  have hcounterpart := SuffixConvention.isRelative_sourceCounterpart hendings hname
  by_cases hrel : Reference.isRelative specifier = true
  · rw [hrel] at hcounterpart
    rcases base with _ | base
    · rw [findIn_of_unbased (hg.get?_relative hrel) hrel] at hmiss
      rw [findIn_of_unbased (hknown.get?_relative hcounterpart) hcounterpart] at hfound
      exact findUnbased_counterpart hknown hendings hname hrel (congrArg Prod.fst hmiss) hfound hlogical
    · rw [findIn_of_based (hg.get?_relative hrel) hrel] at hmiss
      rw [findIn_of_based (hknown.get?_relative hcounterpart) hcounterpart] at hfound
      have hkept := (findAlone_keeps env known base).grounded hknown
      rcases hbase : (findAlone env cache base).1 with e | _ | origin
      · rw [hbase] at hmiss
        cases hmiss
      · simp only [hbase] at hmiss
        rw [(findUnbased_keeps env _ specifier context).base_again hmiss, hbase] at hfound
        exact findUnbased_counterpart hkept hendings hname hrel (congrArg Prod.fst hmiss) hfound
          hlogical
      · simp only [hbase] at hmiss
        rw [(findAgainst_keeps env _ origin.artifact specifier).base_again hmiss, hbase] at hfound
        exact findAgainst_counterpart hkept hendings hname hrel (congrArg Prod.fst hmiss) hfound
          hlogical
  · have hrel := Bool.eq_false_iff.mpr hrel
    rw [hrel] at hcounterpart
    have hmissed : (findAlone env cache specifier).1 = .ok none := by
      rcases hheld : cache.get? specifier with _ | artifact
      · rw [findIn_of_fresh hheld hrel] at hmiss
        rw [findAlone_of_fresh hheld hrel, hmiss]
      · rw [findIn_of_held hheld] at hmiss
        cases hmiss
    obtain ⟨name, hdenotes, hhands⟩ := findIn_handsOut hknown.labelled hfound
    have huri := (hhands.knownBy (hknown.labelled.findIn counterpart base context)).uri_eq hlogical
    rw [huri] at hlogical ⊢
    rcases hdenotes.of_logical hlogical with rfl | ⟨-, -, -, hrelative, -⟩
    · exact ⟨specifier, hname, search_of_findAlone_none hmissed⟩
    · rw [hcounterpart] at hrelative
      cases hrelative

end Counterpart

end Search

end ModuleLoader
