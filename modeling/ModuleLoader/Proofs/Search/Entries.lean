/-
What a cache of searches comes to hold.

Requests come in any order, with any bases and contexts, and the archive, the resources and the
files may change from one to the next.  A request asks for up to three names and keeps up to two
of the answers: what its base is, and what its reference comes to.  Each is kept in the same
way, if it is kept at all: at the end of the cache, under a name that was free, and as the very
answer to the lookup (`Keeps`).  So a request that finds nothing has kept at most its base.

What is kept comes about in one of two ways, by looking the name up or by opening it as a URL
(`Origin`).  In neither is the name a relative one, and in both the artifact is known by the
name or by the URL that the name spells.
-/
import ModuleLoader.Proofs.Compile.Calls
import ModuleLoader.Proofs.Reference
import ModuleLoader.Proofs.Search.Anchor
import ModuleLoader.Proofs.Search.Plain

namespace ModuleLoader

namespace RawCache

/-- The cache with one more entry, after all others. -/
def add (cache : RawCache) (key : String) (artifact : Artifact) : RawCache :=
  ⟨cache.entries ++ [(key, artifact)]⟩

variable {cache : RawCache} {key : String}

theorem forall_add {P : String × Artifact → Prop} {artifact : Artifact}
    (hold : ∀ entry ∈ cache.entries, P entry) (hnew : P (key, artifact)) :
    ∀ entry ∈ (cache.add key artifact).entries, P entry := by
  intro entry hentry
  rcases List.mem_append.mp hentry with hentry | hentry
  · exact hold entry hentry
  · rw [List.mem_singleton.mp hentry]
    exact hnew

theorem remember_of_none (h : cache.get? key = none) (artifact : Artifact) :
    cache.remember key artifact = (⟨artifact, some (.raw key)⟩, cache.add key artifact) := by
  unfold remember
  rw [h]
  rfl

theorem remember_of_held {old : Artifact} (h : cache.get? key = some old) (artifact : Artifact) :
    cache.remember key artifact = (⟨old, some (.raw key)⟩, cache) := by
  unfold remember
  rw [h]

/-- A name that is free is the name of no entry. -/
theorem key_ne_of_free (h : cache.get? key = none) : ∀ entry ∈ cache.entries, entry.1 ≠ key := by
  intro entry hentry heq
  have hne : key ≠ entry.1 := by
    have hkeys := List.lookup_eq_none_iff.mp h entry hentry
    simpa using hkeys
  exact hne heq.symm

/-- If no name has two entries, every entry is what is held under its name. -/
theorem get?_of_mem : ∀ {entries : List (String × Artifact)}, (entries.map Prod.fst).Nodup →
    ∀ entry ∈ entries, get? ⟨entries⟩ entry.1 = some entry.2 := by
  intro entries
  induction entries with
  | nil => intro _ entry hentry; cases hentry
  | cons first rest ih =>
      intro hnodup entry hentry
      obtain ⟨hfirst, hrest⟩ := List.nodup_cons.mp hnodup
      rcases List.mem_cons.mp hentry with rfl | hentry
      · exact List.lookup_cons_self
      · have hne : (entry.1 == first.1) = false := by
          refine beq_eq_false_iff_ne.mpr ?_
          intro heq
          exact hfirst (List.mem_map.mpr ⟨entry, hentry, heq⟩)
        show List.lookup entry.1 (first :: rest) = _
        rw [List.lookup_cons, hne]
        exact ih hrest entry hentry

/-- What is held under a name is held whatever else is added. -/
theorem get?_of_prefix {larger : RawCache} (h : cache.entries <+: larger.entries)
    {artifact : Artifact} (hheld : cache.get? key = some artifact) :
    larger.get? key = some artifact := by
  obtain ⟨more, hmore⟩ := h
  have hlookup : cache.entries.lookup key = some artifact := hheld
  unfold get?
  rw [← hmore, List.lookup_append, hlookup]
  rfl

end RawCache

namespace Search

open OnDemand (Request)

/-! ### How artifacts come to be kept -/

/-- The artifact is what looking the name up finds, or what the name opens to as a URL. -/
inductive Origin (env : Environment) (key : String) (artifact : Artifact) : Prop
  | found (hfresh : Reference.isRelative key = false)
      (hfound : search env key = .ok (some artifact))
  | opened (habs : Reference.isAbsolute key = true)
      (hopened : openDirectly env key = .ok (some artifact))

/-- The artifact is known by the name, or by the URL that the name spells. -/
def KnownBy (key : String) (artifact : Artifact) : Prop :=
  artifact.uri = key ∨ ∃ url, Url.parse key = .ok url ∧ artifact.uri = url.text

variable {env : Environment} {cache : RawCache}

theorem ofBody_map_uri {identity : String} {body : Body} {artifact : Artifact}
    (h : (Artifact.ofBody identity body).map some = .ok (some artifact)) :
    artifact.uri = identity := by
  rcases hbody : Artifact.ofBody identity body with e | found
  · rw [hbody] at h
    cases h
  · rw [hbody] at h
    cases h
    exact (ofBody_eq_ok hbody).1

theorem openResource_uri {name identity : String} {artifact : Artifact}
    (h : openResource env name identity = .ok (some artifact)) : artifact.uri = identity := by
  unfold openResource at h
  rcases hopen : env.resources.openName env.files name with e | _ | body
  · rw [hopen] at h
    cases h
  · rw [hopen] at h
    cases h
  · rw [hopen] at h
    exact ofBody_map_uri h

/-- Whatever a URL opens to is known by the URL. -/
theorem openUrl_uri {url : Url} {artifact : Artifact}
    (h : openUrl env url = .ok (some artifact)) : artifact.uri = url.text := by
  unfold openUrl ByUrl.openUrl at h
  split at h
  · unfold ByUrl.openFile at h
    rcases hnames : url.localNames? with _ | path
    · simp only [hnames] at h
      cases h
    · simp only [hnames] at h
      split at h
      · split at h <;> cases h
      · exact ofBody_map_uri h
      · cases h
  · split at h
    · unfold ByUrl.openResource at h
      rcases hopen : env.resources.openName env.files url.resourceName with e | _ | body
      · rw [hopen] at h
        cases h
      · rw [hopen] at h
        cases h
      · rw [hopen] at h
        exact ofBody_map_uri h
    · cases h

theorem openDirectly_knownBy {key : String} {artifact : Artifact}
    (h : openDirectly env key = .ok (some artifact)) : KnownBy key artifact := by
  unfold openDirectly ByUrl.openText at h
  rcases hurl : Url.parse key with fault | url
  · rw [hurl] at h
    cases h
  · rw [hurl] at h
    exact Or.inr ⟨url, hurl, openUrl_uri h⟩

theorem openAsUrl_knownBy {key : String} {artifact : Artifact}
    (h : openAsUrl env key = .ok (some artifact)) : KnownBy key artifact := by
  unfold openAsUrl at h
  split at h
  · rcases hurl : Url.parse key with fault | url
    · simp only [hurl] at h
      cases h
    · simp only [hurl] at h
      split at h
      · cases h
      · exact Or.inr ⟨url, hurl, openUrl_uri h⟩
  · cases h

theorem search_knownBy {key : String} {artifact : Artifact}
    (h : search env key = .ok (some artifact)) : KnownBy key artifact := by
  unfold search at h
  rcases hfile : env.archive.findFile key with _ | contents
  · simp only [hfile] at h
    obtain ⟨candidate, hmem, hfound⟩ := firstOf_mem _ none h
    unfold candidates at hmem
    simp only [List.mem_append, List.mem_map, List.mem_cons, List.not_mem_nil, or_false] at hmem
    rcases hmem with (⟨inner, -, rfl⟩ | ⟨root, -, rfl⟩) | rfl | rfl
    · exact Or.inl (openResource_uri hfound)
    · exact Or.inl (openResource_uri hfound)
    · exact openAsUrl_knownBy hfound
    · exact Or.inl (openResource_uri hfound)
  · simp only [hfile] at h
    cases h
    exact Or.inl rfl

namespace Origin

variable {key : String} {artifact : Artifact}

theorem fresh (h : Origin env key artifact) : Reference.isRelative key = false := by
  cases h with
  | found hfresh _ => exact hfresh
  | opened habs _ => exact Reference.isRelative_of_isAbsolute habs

theorem knownBy (h : Origin env key artifact) : KnownBy key artifact := by
  cases h with
  | found _ hfound => exact search_knownBy hfound
  | opened _ hopened => exact openDirectly_knownBy hopened

end Origin

/-! ### One request -/

/-- A lookup keeps nothing, or what it answers with, under a name that was free. -/
inductive Keeps (env : Environment) (cache : RawCache) : Outcome × RawCache → Prop
  | nothing (outcome : Outcome) : Keeps env cache (outcome, cache)
  | answer (key : String) (artifact : Artifact) (hfree : cache.get? key = none)
      (horigin : Origin env key artifact) :
      Keeps env cache (.ok (some ⟨artifact, some (.raw key)⟩), cache.add key artifact)

theorem keeping_keeps {key : String} {result : Except LoadError (Option Artifact)}
    (h : ∀ artifact, result = .ok (some artifact) → Origin env key artifact) :
    Keeps env cache (keeping cache key result) := by
  rcases result with e | _ | artifact
  · exact .nothing _
  · exact .nothing _
  · rw [keeping_some]
    rcases hheld : cache.get? key with _ | old
    · rw [RawCache.remember_of_none hheld]
      exact .answer key artifact hheld (h artifact rfl)
    · rw [RawCache.remember_of_held hheld]
      exact .nothing _

theorem findAlone_keeps (env : Environment) (cache : RawCache) (name : String) :
    Keeps env cache (findAlone env cache name) := by
  rcases hheld : cache.get? name with _ | artifact
  · by_cases hrel : Reference.isRelative name = true
    · rw [findAlone_of_relative hheld hrel]
      exact .nothing _
    · have hfresh := Bool.eq_false_iff.mpr hrel
      rw [findAlone_of_fresh hheld hfresh]
      exact keeping_keeps fun artifact hfound => .found hfresh hfound
  · rw [findAlone_of_held hheld]
    exact .nothing _

theorem findAgainst_keeps (env : Environment) (cache : RawCache) (base : Artifact)
    (specifier : String) : Keeps env cache (findAgainst env cache base specifier) := by
  unfold findAgainst
  rcases Reference.resolve base.uri specifier with cause | target
  · exact .nothing _
  · exact findAlone_keeps env cache target

theorem findInContext_keeps (env : Environment) (cache : RawCache) (context : Artifact)
    (specifier : String) : Keeps env cache (findInContext env cache context specifier) := by
  rcases hresolve : Reference.resolve context.uri specifier with cause | target
  · unfold findInContext
    rw [hresolve]
    exact .nothing _
  · by_cases habs : Reference.isAbsolute target = true
    · rw [findInContext_of_url hresolve habs]
      exact keeping_keeps fun artifact hopened => .opened habs hopened
    · rw [findInContext_of_path hresolve habs]
      exact findAlone_keeps env cache target

theorem findUnbased_keeps (env : Environment) (cache : RawCache) (specifier : String)
    (context : Option Artifact) : Keeps env cache (findUnbased env cache specifier context) := by
  rcases context with _ | context
  · exact .nothing _
  · have hcontext := findInContext_keeps env cache context specifier
    rw [findUnbased_some]
    generalize findInContext env cache context specifier = found at hcontext
    cases hcontext with
    | nothing outcome => exact .nothing _
    | answer key artifact hfree horigin => exact .answer key artifact hfree horigin

/-- A search is one lookup, or that of its base, which is found and kept, and one more. -/
inductive Searches (env : Environment) (cache : RawCache) (base : Option String)
    (x : Outcome × RawCache) : Prop
  | once (h : Keeps env cache x)
  | based (name : String) (artifact : Artifact) (hbase : base = some name)
      (hfree : cache.get? name = none) (horigin : Origin env name artifact)
      (hfound : findAlone env cache name
        = (.ok (some ⟨artifact, some (.raw name)⟩), cache.add name artifact))
      (h : Keeps env (cache.add name artifact) x)

theorem findIn_searches (env : Environment) (cache : RawCache) (specifier : String)
    (base : Option String) (context : Option Artifact) :
    Searches env cache base (findIn env cache specifier base context) := by
  rcases hheld : cache.get? specifier with _ | artifact
  · by_cases hrel : Reference.isRelative specifier = true
    · rcases base with _ | name
      · rw [findIn_of_unbased hheld hrel]
        exact .once (findUnbased_keeps env cache specifier context)
      · have hbase := findAlone_keeps env cache name
        rw [findIn_of_based hheld hrel]
        rcases findAlone_cases env cache name with
          hsame | ⟨artifact, hfree, hfresh, hsearch, heq⟩
        · rw [hsame]
          refine .once ?_
          rcases (findAlone env cache name).1 with e | _ | found
          · exact .nothing _
          · exact findUnbased_keeps env cache specifier context
          · exact findAgainst_keeps env cache found.artifact specifier
        · rw [RawCache.remember_of_none hfree] at heq
          refine .based name artifact rfl hfree (.found hfresh hsearch) heq ?_
          rw [heq]
          exact findAgainst_keeps env _ artifact specifier
    · have hfresh := Bool.eq_false_iff.mpr hrel
      rw [findIn_of_fresh hheld hfresh]
      exact .once (keeping_keeps fun artifact hfound => .found hfresh hfound)
  · rw [findIn_of_held hheld]
    exact .once (.nothing _)

section Preserves

variable {I : RawCache → Prop}

/-- What one more entry does not change, a lookup does not change. -/
theorem Keeps.preserves (hadd : ∀ cache key artifact, I cache → cache.get? key = none →
      Origin env key artifact → I (cache.add key artifact))
    {x : Outcome × RawCache} (hkeeps : Keeps env cache x) (h : I cache) : I x.2 := by
  cases hkeeps with
  | nothing outcome => exact h
  | answer key artifact hfree horigin => exact hadd cache key artifact h hfree horigin

theorem Searches.preserves (hadd : ∀ cache key artifact, I cache → cache.get? key = none →
      Origin env key artifact → I (cache.add key artifact))
    {base : Option String} {x : Outcome × RawCache} (hsearches : Searches env cache base x)
    (h : I cache) : I x.2 := by
  cases hsearches with
  | once hkeeps => exact hkeeps.preserves hadd h
  | based name artifact hbase hfree horigin hfound hkeeps =>
      exact hkeeps.preserves hadd (hadd cache name artifact h hfree horigin)

end Preserves

/-! ### Requests one after the other -/

/-- Answers a request. -/
def serve (cache : RawCache) (request : Request) : Outcome × RawCache :=
  findIn request.env cache request.specifier request.base request.context

/-- The cache after some requests. -/
def afterAll (cache : RawCache) (requests : List Request) : RawCache :=
  requests.foldl (fun cache request => (serve cache request).2) cache

/-- What one more entry does not change, no requests change. -/
theorem afterAll_preserves {I : RawCache → Prop} {requests : List Request}
    (hadd : ∀ request ∈ requests, ∀ cache key artifact, I cache → cache.get? key = none →
      Origin request.env key artifact → I (cache.add key artifact)) :
    ∀ {cache : RawCache}, I cache → I (afterAll cache requests) := by
  induction requests with
  | nil => intro cache h; exact h
  | cons request rest ih =>
      intro cache h
      have hsearches := findIn_searches request.env cache request.specifier request.base
        request.context
      exact ih (fun other hother => hadd other (List.mem_cons_of_mem _ hother))
        (hsearches.preserves (hadd request List.mem_cons_self) h)

/-! ### What holds of every cache -/

/-- What holds of the entries of a cache. -/
structure Sound (cache : RawCache) : Prop where
  /-- No name has two entries. -/
  distinct : (cache.entries.map Prod.fst).Nodup
  /-- No name is that of a relative reference. -/
  fresh : ∀ entry ∈ cache.entries, Reference.isRelative entry.1 = false
  /-- Every artifact is known by the name it is kept under, or by the URL that it spells. -/
  known : ∀ entry ∈ cache.entries, KnownBy entry.1 entry.2

namespace Sound

theorem empty : Sound {} := by
  refine ⟨List.nodup_nil, ?_, ?_⟩
  · intro entry hentry
    cases hentry
  · intro entry hentry
    cases hentry

theorem add (h : Sound cache) {key : String} {artifact : Artifact}
    (hfree : cache.get? key = none) (horigin : Origin env key artifact) :
    Sound (cache.add key artifact) := by
  refine ⟨?_, RawCache.forall_add h.fresh horigin.fresh,
    RawCache.forall_add h.known horigin.knownBy⟩
  show ((cache.entries ++ [(key, artifact)]).map Prod.fst).Nodup
  rw [List.map_append, List.nodup_append]
  refine ⟨h.distinct, by simp, ?_⟩
  intro name hname other hother
  obtain ⟨entry, hentry, rfl⟩ := List.mem_map.mp hname
  rw [List.mem_singleton.mp hother]
  exact RawCache.key_ne_of_free hfree entry hentry

end Sound

theorem Sound.after (h : Sound cache) (requests : List Request) : Sound (afterAll cache requests) :=
  afterAll_preserves (fun _ _ _ _ _ h hfree horigin => h.add hfree horigin) h

theorem sound_afterAll (requests : List Request) : Sound (afterAll {} requests) :=
  Sound.empty.after requests

/-- Nothing is ever kept under a relative name. -/
theorem Sound.get?_relative (h : Sound cache) {name : String}
    (hrel : Reference.isRelative name = true) : cache.get? name = none := by
  refine RawCache.get?_eq_none fun entry hentry heq => ?_
  have hfresh := h.fresh entry hentry
  rw [heq, hrel] at hfresh
  cases hfresh

/-- What a request that is answered has added to a cache. -/
structure Adds (request : Request) (cache : RawCache) (x : Outcome × RawCache) : Prop where
  /-- At most two entries come after those that there are. -/
  few : ∃ more, x.2.entries = cache.entries ++ more ∧ more.length ≤ 2
  /-- A request that finds nothing or ends in an error adds at most its base, found. -/
  missed : (∀ found, x.1 ≠ .ok (some found)) → x.2 = cache ∨
    ∃ name artifact, request.base = some name ∧
      findAlone request.env cache name = (.ok (some ⟨artifact, some (.raw name)⟩), x.2) ∧
      x.2.entries = cache.entries ++ [(name, artifact)]

/-- What one lookup adds. -/
theorem Keeps.adds {x : Outcome × RawCache} (h : Keeps env cache x) :
    (∃ more, x.2.entries = cache.entries ++ more ∧ more.length ≤ 1) ∧
      ((∀ found, x.1 ≠ .ok (some found)) → x.2 = cache) := by
  cases h with
  | nothing outcome => exact ⟨⟨[], (List.append_nil _).symm, Nat.zero_le 1⟩, fun _ => rfl⟩
  | answer key artifact hfree horigin =>
      exact ⟨⟨[(key, artifact)], rfl, Nat.le_refl 1⟩, fun hnone => absurd rfl (hnone _)⟩

theorem serve_adds (cache : RawCache) (request : Request) :
    Adds request cache (serve cache request) := by
  have hsearches := findIn_searches request.env cache request.specifier request.base
    request.context
  refine ⟨?_, ?_⟩
  · cases hsearches with
    | once hkeeps =>
        obtain ⟨more, heq, hle⟩ := hkeeps.adds.1
        exact ⟨more, heq, Nat.le_succ_of_le hle⟩
    | based name artifact hbase hfree horigin hfound hkeeps =>
        obtain ⟨more, heq, hle⟩ := hkeeps.adds.1
        refine ⟨(name, artifact) :: more, ?_, Nat.succ_le_succ hle⟩
        rw [serve, heq]
        simp [RawCache.add]
  · intro hmissed
    cases hsearches with
    | once hkeeps => exact Or.inl (hkeeps.adds.2 hmissed)
    | based name artifact hbase hfree horigin hfound hkeeps =>
        have hsame : (serve cache request).2 = cache.add name artifact := hkeeps.adds.2 hmissed
        rw [hsame]
        exact Or.inr ⟨name, artifact, hbase, hfound, rfl⟩

/-- Whatever comes, the entries stay what they are and where they are. -/
theorem afterAll_prefix (requests : List Request) :
    ∀ cache : RawCache, cache.entries <+: (afterAll cache requests).entries := by
  induction requests with
  | nil => intro cache; exact List.prefix_refl _
  | cons request rest ih =>
      intro cache
      obtain ⟨more, heq, -⟩ := (serve_adds cache request).few
      have hfirst : cache.entries <+: (serve cache request).2.entries := ⟨more, heq.symm⟩
      exact hfirst.trans (ih _)

/-- **What a cache holds, it holds for good, and rightly.**  Whatever requests there have been,
and whatever there was to be found when they came: the entries are those of different names, no
relative reference among them, of artifacts known by these names or by the URLs that they
spell; the next request adds at most two, and at most its base if it finds nothing; and
whatever comes later, every entry stays, and a request for its name is answered with it and
adds nothing. -/
theorem afterAll_sound (past : List Request) (request : Request) (later : List Request) :
    let cache := afterAll {} past
    let last := afterAll cache later
    Sound cache ∧ Adds request cache (serve cache request) ∧
      cache.entries <+: last.entries ∧
      ∀ entry ∈ cache.entries, last.get? entry.1 = some entry.2 ∧
        ∀ env base context, serve last ⟨env, entry.1, base, context⟩
          = (.ok (some ⟨entry.2, some (.raw entry.1)⟩), last) := by
  intro cache last
  have hsound : Sound cache :=
    afterAll_preserves (fun _ _ _ _ _ h hfree horigin => h.add hfree horigin) Sound.empty
  have hprefix : cache.entries <+: last.entries := afterAll_prefix later cache
  refine ⟨hsound, serve_adds cache request, hprefix, ?_⟩
  intro entry hentry
  have hheld : last.get? entry.1 = some entry.2 :=
    RawCache.get?_of_prefix hprefix (RawCache.get?_of_mem hsound.distinct entry hentry)
  exact ⟨hheld, fun env base context => findIn_of_held hheld⟩

end Search

end ModuleLoader
