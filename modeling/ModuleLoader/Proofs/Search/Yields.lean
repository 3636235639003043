/-
What searches hand out and keep.

A search hands out what the cache holds under the name that it looks up, or what it finds
there, and it keeps nothing else.  So what is true of every artifact in the cache, and of
every artifact that is found under the names that the search may look up, is true of what it
hands out and of the cache that it leaves (`stays`).
-/
import ModuleLoader.Proofs.Search.Cache

namespace ModuleLoader

namespace RawCache

/-- Every artifact that is kept has the property. -/
def All (P : Artifact → Prop) (cache : RawCache) : Prop := ∀ entry ∈ cache.entries, P entry.2

variable {P : Artifact → Prop} {cache : RawCache}

theorem All.get? (h : cache.All P) {key : String} {artifact : Artifact}
    (hheld : cache.get? key = some artifact) : P artifact :=
  h (key, artifact) (mem_of_lookup hheld)

theorem All.remember (h : cache.All P) (key : String) {artifact : Artifact} (hnew : P artifact) :
    P (cache.remember key artifact).1.artifact ∧ (cache.remember key artifact).2.All P := by
  unfold RawCache.remember
  rcases hheld : cache.get? key with _ | old
  · refine ⟨hnew, ?_⟩
    intro entry hentry
    rcases List.mem_append.mp hentry with hentry | hentry
    · exact h entry hentry
    · rw [List.mem_singleton.mp hentry]
      exact hnew
  · exact ⟨h.get? hheld, h⟩

end RawCache

namespace Search

/-- What is handed out has the property, and so has all that is kept. -/
structure Yields (P : Artifact → Prop) (x : Outcome × RawCache) : Prop where
  answer : ∀ found, x.1 = .ok (some found) → P found.artifact
  cache : x.2.All P

/-- The search keeps to the property, whatever is kept that has it. -/
def Stays (env : Environment) (P : Artifact → Prop) (specifier : String) (base : Option String)
    (context : Option Artifact) : Prop :=
  ∀ cache : RawCache, cache.All P → Yields P (findIn env cache specifier base context)

/-- What looking the name up finds has the property. -/
def Finds (env : Environment) (P : Artifact → Prop) (name : String) : Prop :=
  ∀ artifact, search env name = .ok (some artifact) → P artifact

/-- What a reference means has the property, whether it is looked up or opened as a URL. -/
structure Leads (env : Environment) (P : Artifact → Prop) (origin reference : String) : Prop where
  found : ∀ target, Reference.resolve origin reference = .ok target → Finds env P target
  opened : ∀ target, Reference.resolve origin reference = .ok target →
    Reference.isAbsolute target = true →
    ∀ artifact, openDirectly env target = .ok (some artifact) → P artifact

variable {env : Environment} {P : Artifact → Prop} {cache : RawCache}

theorem Yields.error (hcache : cache.All P) (e : LoadError) : Yields P (.error e, cache) :=
  ⟨nofun, hcache⟩

theorem Yields.nothing (hcache : cache.All P) : Yields P (.ok none, cache) := by
  refine ⟨?_, hcache⟩
  intro found hfound
  cases hfound

theorem Yields.found (hcache : cache.All P) {found : Found} (h : P found.artifact) :
    Yields P (.ok (some found), cache) := by
  refine ⟨?_, hcache⟩
  intro other hother
  cases hother
  exact h

theorem passing_yields (hcache : cache.All P) {name : String} (h : Finds env P name) :
    Yields P (passing (search env name), cache) := by
  rcases hresult : search env name with e | _ | artifact
  · exact .error hcache e
  · exact .nothing hcache
  · exact .found hcache (h artifact hresult)

theorem keeping_yields (hcache : cache.All P) (key : String)
    {result : Except LoadError (Option Artifact)}
    (h : ∀ artifact, result = .ok (some artifact) → P artifact) :
    Yields P (keeping cache key result) := by
  rcases result with e | _ | artifact
  · exact .error hcache e
  · exact .nothing hcache
  · obtain ⟨hanswer, hkept⟩ := hcache.remember key (h artifact rfl)
    rw [keeping_some]
    exact .found hkept hanswer

theorem findAlone_yields (hcache : cache.All P) {name : String} (h : Finds env P name) :
    Yields P (findAlone env cache name) := by
  rcases hheld : cache.get? name with _ | artifact
  · by_cases hrel : Reference.isRelative name = true
    · rw [findAlone_of_relative hheld hrel]
      exact passing_yields hcache h
    · rw [findAlone_of_fresh hheld (Bool.eq_false_iff.mpr hrel)]
      exact keeping_yields hcache name h
  · rw [findAlone_of_held hheld]
    exact .found hcache (hcache.get? hheld)

theorem findAgainst_yields (hcache : cache.All P) {base : Artifact} {reference : String}
    (h : Leads env P base.uri reference) : Yields P (findAgainst env cache base reference) := by
  unfold findAgainst
  rcases htarget : Reference.resolve base.uri reference with cause | target
  · exact .error hcache _
  · exact findAlone_yields hcache (h.found target htarget)

theorem findInContext_yields (hcache : cache.All P) {context : Artifact} {reference : String}
    (h : Leads env P context.uri reference) :
    Yields P (findInContext env cache context reference) := by
  unfold findInContext
  rcases htarget : Reference.resolve context.uri reference with cause | target
  · exact .error hcache _
  · by_cases habs : Reference.isAbsolute target = true
    · simp only [habs, if_pos]
      exact keeping_yields hcache target (h.opened target htarget habs)
    · simp only [habs, if_neg, Bool.false_eq_true, not_false_eq_true]
      exact findAlone_yields hcache (h.found target htarget)

theorem findUnbased_yields (hcache : cache.All P) {specifier : String} {context : Option Artifact}
    (hliteral : Finds env P specifier)
    (hcontext : ∀ running ∈ context, Leads env P running.uri specifier) :
    Yields P (findUnbased env cache specifier context) := by
  rcases context with _ | context
  · exact passing_yields hcache hliteral
  · obtain ⟨hanswer, hkept⟩ := findInContext_yields hcache (hcontext context rfl)
    rw [findUnbased_some]
    refine ⟨?_, hkept⟩
    intro found hfound
    rcases hresult : (findInContext env cache context specifier).1 with e | _ | other
    · rw [hresult] at hfound
      cases hfound
    · rw [hresult] at hfound
      exact (passing_yields hkept hliteral).answer found hfound
    · rw [hresult] at hfound
      cases hfound
      exact hanswer found hresult

/-- **What is true of all that is kept and of all that may be found is true of what a search
hands out, and stays true of all that is kept.** -/
theorem stays {specifier : String} {base : Option String} {context : Option Artifact}
    (hliteral : Finds env P specifier) (hbase : ∀ name ∈ base, Finds env P name)
    (hagainst : Reference.isRelative specifier = true →
      ∀ artifact, P artifact → Leads env P artifact.uri specifier)
    (hcontext : Reference.isRelative specifier = true →
      ∀ running ∈ context, Leads env P running.uri specifier) :
    Stays env P specifier base context := by
  intro cache hcache
  rcases hheld : cache.get? specifier with _ | artifact
  · by_cases hrel : Reference.isRelative specifier = true
    · rcases base with _ | name
      · rw [findIn_of_unbased hheld hrel]
        exact findUnbased_yields hcache hliteral (hcontext hrel)
      · obtain ⟨hanswer, hkept⟩ := findAlone_yields hcache (hbase name rfl)
        rw [findIn_of_based hheld hrel]
        rcases hresult : (findAlone env cache name).1 with e | _ | found
        · exact .error hkept e
        · exact findUnbased_yields hkept hliteral (hcontext hrel)
        · exact findAgainst_yields hkept (hagainst hrel _ (hanswer found hresult))
    · rw [findIn_of_fresh hheld (Bool.eq_false_iff.mpr hrel)]
      exact keeping_yields hcache specifier hliteral
  · rw [findIn_of_held hheld]
    exact .found hcache (hcache.get? hheld)

end Search

end ModuleLoader
