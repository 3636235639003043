/-
What a cache that holds more can change.

A search asks the cache for nothing but the name it looks up at the moment.  So a cache that
holds more than another answers in the same way as long as what it holds in addition is what
looking the name up would find anyway (`Widens`).  That is shown of every kind of search, and
that the caches they leave are related in the same way, so that it carries over to whatever
is made of searches (`Alike`).

There is one search that does not look a name up but opens it: that for a reference that
comes to a URL in the running module.  A URL must not open to another module than the one
that is held under it.
-/
import ModuleLoader.Proofs.Archive
import ModuleLoader.Search

namespace ModuleLoader

/-- Two answers are the same, and the states they leave are related. -/
structure Alike {α τ : Type} (R : τ → τ → Prop) (x y : α × τ) : Prop where
  answer : x.1 = y.1
  state : R x.2 y.2

theorem Alike.trans {α τ : Type} {R : τ → τ → Prop} {x y z : α × τ}
    (hR : R x.2 y.2 → R y.2 z.2 → R x.2 z.2) (h : Alike R x y) (h' : Alike R y z) : Alike R x z :=
  ⟨h.answer.trans h'.answer, hR h.state h'.state⟩

namespace RawCache

theorem remember_fst (cache : RawCache) (key : String) (artifact : Artifact) :
    (cache.remember key artifact).1 = ⟨(cache.get? key).getD artifact, some (.raw key)⟩ := by
  unfold remember
  rcases cache.get? key with _ | old <;> rfl

theorem get?_append (entries : List (String × Artifact)) (key : String) (artifact : Artifact)
    (name : String) : get? ⟨entries ++ [(key, artifact)]⟩ name =
      (get? ⟨entries⟩ name).or (if name = key then some artifact else none) := by
  unfold get?
  rw [List.lookup_append]
  by_cases h : name = key
  · simp [h]
  · have hne : (name == key) = false := beq_eq_false_iff_ne.mpr h
    simp [List.lookup_cons, h, hne]

/-- Keeping changes what is held under that name, if nothing was, and nothing else. -/
theorem get?_remember (cache : RawCache) (key : String) (artifact : Artifact) (name : String) :
    (cache.remember key artifact).2.get? name =
      if name = key then some ((cache.get? key).getD artifact) else cache.get? name := by
  unfold remember
  rcases h : cache.get? key with _ | old
  · show get? ⟨cache.entries ++ [(key, artifact)]⟩ name = _
    rw [get?_append]
    by_cases hname : name = key
    · subst hname
      rw [show get? ⟨cache.entries⟩ name = none from h, if_pos rfl, if_pos rfl]
      rfl
    · rw [if_neg hname, if_neg hname, Option.or_none]
  · by_cases hname : name = key
    · rw [hname, if_pos rfl]
      exact h
    · rw [if_neg hname]

theorem get?_eq_none {cache : RawCache} {key : String}
    (h : ∀ entry ∈ cache.entries, entry.1 ≠ key) : cache.get? key = none := by
  rcases hheld : cache.get? key with _ | artifact
  · rfl
  · exact absurd rfl (h (key, artifact) (mem_of_lookup hheld))

end RawCache

namespace Search

/-! ### Caches that hold more -/

/-- What a text opens to as a URL. -/
def openDirectly (env : Environment) (text : String) : Except LoadError (Option Artifact) :=
  ByUrl.openText env.files env.settings.resourceScheme env.resources text

/-- The artifact is what looking the name up finds, and as a URL the name opens to nothing
else. -/
structure Tells (env : Environment) (name : String) (artifact : Artifact) : Prop where
  fresh : Reference.isRelative name = false
  found : search env name = .ok (some artifact)
  opened : Reference.isAbsolute name = true →
    ∀ other, openDirectly env name = .ok (some other) → other = artifact

theorem Tells.unique {env : Environment} {name : String} {artifact : Artifact}
    (h : Tells env name artifact) :
    ∀ other, search env name = .ok (some other) → other = artifact := by
  intro other hother
  rw [h.found] at hother
  cases hother
  rfl

/-- The second cache holds what the first one does, and besides only what looking a name up
finds. -/
def Widens (env : Environment) (cache wider : RawCache) : Prop :=
  ∀ name, wider.get? name = cache.get? name ∨
    (cache.get? name = none ∧ ∃ artifact, wider.get? name = some artifact ∧ Tells env name artifact)

variable {env : Environment} {cache wider : RawCache}

theorem Widens.refl (env : Environment) (cache : RawCache) : Widens env cache cache :=
  fun _ => Or.inl rfl

/-- Both caches may keep one more artifact under a name at which they agree. -/
theorem Widens.remember {key : String} (h : Widens env cache wider)
    (hkey : wider.get? key = cache.get? key) (artifact : Artifact) :
    Widens env (cache.remember key artifact).2 (wider.remember key artifact).2 := by
  intro name
  rw [RawCache.get?_remember, RawCache.get?_remember, hkey]
  by_cases hname : name = key
  · rw [if_pos hname, if_pos hname]
    exact Or.inl rfl
  · rw [if_neg hname, if_neg hname]
    exact h name

/-- The first cache may catch up. -/
theorem Widens.catchUp {key : String} {artifact : Artifact} (h : Widens env cache wider)
    (hnone : cache.get? key = none) (hsome : wider.get? key = some artifact) :
    Widens env (cache.remember key artifact).2 wider := by
  intro name
  rw [RawCache.get?_remember]
  by_cases hname : name = key
  · rw [if_pos hname, hname, hnone]
    exact Or.inl hsome
  · rw [if_neg hname]
    exact h name

/-- The second cache may run ahead by what looking the name up finds. -/
theorem Widens.runAhead {key : String} {artifact : Artifact} (hnone : cache.get? key = none)
    (htells : Tells env key artifact) : Widens env cache (cache.remember key artifact).2 := by
  intro name
  rw [RawCache.get?_remember]
  by_cases hname : name = key
  · rw [if_pos hname, hname, hnone]
    exact Or.inr ⟨rfl, artifact, rfl, htells⟩
  · rw [if_neg hname]
    exact Or.inl rfl

theorem Widens.trans {widest : RawCache} (h : Widens env cache wider)
    (h' : Widens env wider widest) : Widens env cache widest := by
  intro name
  rcases h' name with heq' | ⟨hnone', artifact', hsome', htells'⟩
  · rw [heq']
    exact h name
  · rcases h name with heq | ⟨-, artifact, hsome, -⟩
    · exact Or.inr ⟨by rw [← heq, hnone'], artifact', hsome', htells'⟩
    · rw [hnone'] at hsome
      cases hsome

/-! ### Searches answer alike -/

theorem keeping_some (cache : RawCache) (key : String) (artifact : Artifact) :
    keeping cache key (.ok (some artifact))
      = (.ok (some (cache.remember key artifact).1), (cache.remember key artifact).2) := rfl

theorem keeping_alike {key : String} (h : Widens env cache wider)
    (result : Except LoadError (Option Artifact))
    (htells : ∀ artifact, Tells env key artifact →
      ∀ other, result = .ok (some other) → other = artifact) :
    Alike (Widens env) (keeping cache key result) (keeping wider key result) := by
  rcases h key with hkey | ⟨hnone, artifact, hsome, hknown⟩
  · rcases result with e | _ | artifact
    · exact ⟨rfl, h⟩
    · exact ⟨rfl, h⟩
    · rw [keeping_some, keeping_some, RawCache.remember_fst, RawCache.remember_fst, hkey]
      exact ⟨rfl, h.remember hkey artifact⟩
  · rcases result with e | _ | other
    · exact ⟨rfl, h⟩
    · exact ⟨rfl, h⟩
    · obtain rfl := htells artifact hknown other rfl
      have hwider : wider.remember key other = (⟨other, some (.raw key)⟩, wider) := by
        unfold RawCache.remember
        rw [hsome]
      rw [keeping_some, keeping_some, hwider, RawCache.remember_fst, hnone]
      exact ⟨rfl, h.catchUp hnone hsome⟩

/-- What is held under a name is the answer. -/
theorem findAlone_of_held {name : String} {artifact : Artifact}
    (h : cache.get? name = some artifact) :
    findAlone env cache name = (.ok (some ⟨artifact, some (.raw name)⟩), cache) := by
  unfold findAlone
  rw [h]

theorem findAlone_of_relative {name : String} (h : cache.get? name = none)
    (hrel : Reference.isRelative name = true) :
    findAlone env cache name = (passing (search env name), cache) := by
  unfold findAlone
  rw [h]
  simp only [hrel, if_pos]

theorem findAlone_of_fresh {name : String} (h : cache.get? name = none)
    (hrel : Reference.isRelative name = false) :
    findAlone env cache name = keeping cache name (search env name) := by
  unfold findAlone
  rw [h]
  simp only [hrel, Bool.false_eq_true, if_false]

theorem findAlone_of_absent {name : String} (h : cache.get? name = none)
    (hrel : Reference.isRelative name = false) (habsent : search env name = .ok none) :
    findAlone env cache name = (.ok none, cache) := by
  rw [findAlone_of_fresh h hrel, habsent]
  rfl

theorem findAlone_alike (h : Widens env cache wider) (name : String) :
    Alike (Widens env) (findAlone env cache name) (findAlone env wider name) := by
  rcases h name with hname | ⟨hnone, artifact, hsome, htells⟩
  · rcases hheld : cache.get? name with _ | artifact
    · rw [hheld] at hname
      by_cases hrel : Reference.isRelative name = true
      · rw [findAlone_of_relative hheld hrel, findAlone_of_relative hname hrel]
        exact ⟨rfl, h⟩
      · have hfresh := Bool.eq_false_iff.mpr hrel
        rw [findAlone_of_fresh hheld hfresh, findAlone_of_fresh hname hfresh]
        exact keeping_alike h _ fun artifact htells => htells.unique
    · rw [hheld] at hname
      rw [findAlone_of_held hheld, findAlone_of_held hname]
      exact ⟨rfl, h⟩
  · have hkeeping := keeping_alike h (search env name) fun artifact htells => htells.unique
    rw [findAlone_of_fresh hnone htells.fresh, findAlone_of_held hsome]
    rw [htells.found] at hkeeping ⊢
    have hwider : keeping wider name (.ok (some artifact))
        = (.ok (some ⟨artifact, some (.raw name)⟩), wider) := by
      unfold keeping RawCache.remember
      rw [hsome]
    rw [hwider] at hkeeping
    exact hkeeping

theorem findAgainst_alike (h : Widens env cache wider) (base : Artifact) (specifier : String) :
    Alike (Widens env) (findAgainst env cache base specifier)
      (findAgainst env wider base specifier) := by
  unfold findAgainst
  rcases Reference.resolve base.uri specifier with cause | target
  · exact ⟨rfl, h⟩
  · exact findAlone_alike h target

theorem findInContext_alike (h : Widens env cache wider) (context : Artifact)
    (specifier : String) :
    Alike (Widens env) (findInContext env cache context specifier)
      (findInContext env wider context specifier) := by
  unfold findInContext
  rcases Reference.resolve context.uri specifier with cause | target
  · exact ⟨rfl, h⟩
  · by_cases habs : Reference.isAbsolute target = true
    · simp only [habs, if_pos]
      exact keeping_alike h _ fun artifact htells => htells.opened habs
    · simp only [habs, if_neg, Bool.false_eq_true, not_false_eq_true]
      exact findAlone_alike h target

/-- An answer, and where there is none, what the text of the reference finds by itself. -/
def orLiteral (env : Environment) (specifier : String) : Outcome → Outcome
  | .error e => .error e
  | .ok none => passing (search env specifier)
  | .ok (some found) => .ok (some found)

theorem findUnbased_some (env : Environment) (cache : RawCache) (specifier : String)
    (context : Artifact) :
    findUnbased env cache specifier (some context) =
      (orLiteral env specifier (findInContext env cache context specifier).1,
        (findInContext env cache context specifier).2) := by
  unfold findUnbased
  simp only
  rcases findInContext env cache context specifier with ⟨e | _ | found, cache'⟩ <;> rfl

theorem findUnbased_alike (h : Widens env cache wider) (specifier : String)
    (context : Option Artifact) :
    Alike (Widens env) (findUnbased env cache specifier context)
      (findUnbased env wider specifier context) := by
  rcases context with _ | context
  · exact ⟨rfl, h⟩
  · obtain ⟨hanswer, hstate⟩ := findInContext_alike h context specifier
    rw [findUnbased_some, findUnbased_some, hanswer]
    exact ⟨rfl, hstate⟩

section FindIn

variable {specifier : String} {base : Option String} {context : Option Artifact}

theorem findIn_of_held {artifact : Artifact} (h : cache.get? specifier = some artifact) :
    findIn env cache specifier base context
      = (.ok (some ⟨artifact, some (.raw specifier)⟩), cache) := by
  unfold findIn
  rw [h]

theorem findIn_of_fresh (h : cache.get? specifier = none)
    (hrel : Reference.isRelative specifier = false) :
    findIn env cache specifier base context
      = keeping cache specifier (search env specifier) := by
  unfold findIn
  rw [h]
  simp only [hrel, Bool.false_eq_true, if_false]

theorem findIn_of_unbased (h : cache.get? specifier = none)
    (hrel : Reference.isRelative specifier = true) :
    findIn env cache specifier none context = findUnbased env cache specifier context := by
  unfold findIn
  rw [h]
  simp only [hrel, if_pos]

/-- A base that is found is what the reference is resolved against, and a base that is not
is as good as none. -/
theorem findIn_of_based {name : String} (h : cache.get? specifier = none)
    (hrel : Reference.isRelative specifier = true) :
    findIn env cache specifier (some name) context =
      match (findAlone env cache name).1 with
      | .error e => (.error e, (findAlone env cache name).2)
      | .ok (some found) =>
        findAgainst env (findAlone env cache name).2 found.artifact specifier
      | .ok none => findUnbased env (findAlone env cache name).2 specifier context := by
  unfold findIn
  rw [h]
  simp only [hrel, if_pos]
  rcases findAlone env cache name with ⟨e | _ | found, cache'⟩ <;> rfl

end FindIn

theorem findIn_alike (h : Widens env cache wider) (specifier : String) (base : Option String)
    (context : Option Artifact) :
    Alike (Widens env) (findIn env cache specifier base context)
      (findIn env wider specifier base context) := by
  rcases h specifier with hname | ⟨hnone, artifact, hsome, htells⟩
  · rcases hheld : cache.get? specifier with _ | artifact
    · rw [hheld] at hname
      by_cases hrel : Reference.isRelative specifier = true
      · rcases base with _ | name
        · rw [findIn_of_unbased hheld hrel, findIn_of_unbased hname hrel]
          exact findUnbased_alike h specifier context
        · rw [findIn_of_based hheld hrel, findIn_of_based hname hrel]
          obtain ⟨hanswer, hstate⟩ := findAlone_alike h name
          rw [← hanswer]
          rcases (findAlone env cache name).1 with e | _ | found
          · exact ⟨rfl, hstate⟩
          · exact findUnbased_alike hstate specifier context
          · exact findAgainst_alike hstate found.artifact specifier
      · have hfresh := Bool.eq_false_iff.mpr hrel
        rw [findIn_of_fresh hheld hfresh, findIn_of_fresh hname hfresh]
        exact keeping_alike h _ fun artifact htells => htells.unique
    · rw [hheld] at hname
      rw [findIn_of_held hheld, findIn_of_held hname]
      exact ⟨rfl, h⟩
  · have halone := findAlone_alike h specifier
    rw [findAlone_of_fresh hnone htells.fresh, findAlone_of_held hsome] at halone
    rw [findIn_of_fresh hnone htells.fresh, findIn_of_held hsome]
    exact halone

/-- **A cache that holds more than another, but nothing that a search would not find, answers
alike.** -/
theorem find_alike (h : Widens env cache wider) (specifier : String) (base : Option String) :
    Alike (Widens env) (find env cache specifier base) (find env wider specifier base) :=
  findIn_alike h specifier base none

end Search

end ModuleLoader
