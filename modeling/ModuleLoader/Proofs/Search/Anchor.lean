/-
Two ways to say where a reference stands.

A relative reference is resolved against a base that is named, or else against the module
that is running.  If the base names the running module, both come to the same target.  They
part ways after that.  The named base looks the target up and takes the answer.  The running
module opens a target that is a URL without looking it up, and when there is no answer it
looks up the text of the reference as if it stood nowhere.

`Anchored` is what it takes for that to make no difference.  It is shown to be no more than
needed (`findIn_anchored_iff`) and enough for the caches to stay alike (`findIn_anchored`).
-/
import ModuleLoader.Proofs.Search.Cache

namespace ModuleLoader.Search

variable {env : Environment} {cache : RawCache}

/-! ### The two ways without a base and with one -/

/-- The running module answers a reference as looking its target up would: a target that is a
URL opens, or else the text of the reference leads, to what is found there; and if nothing is
found where any other target would be, then by the text alone nothing is found either. -/
def Anchored (env : Environment) (cache : RawCache) (context : Artifact) (specifier : String) :
    Prop :=
  ∀ target, Reference.resolve context.uri specifier = .ok target →
    if Reference.isAbsolute target = true then
      orLiteral env specifier (keeping cache target (openDirectly env target)).1
        = (findAlone env cache target).1
    else (findAlone env cache target).1 = .ok none → search env specifier = .ok none

theorem passing_eq_none_iff {result : Except LoadError (Option Artifact)} :
    passing result = .ok none ↔ result = .ok none := by
  rcases result with e | _ | artifact <;> simp [passing, Except.map]

/-- The text is not asked for, or finds nothing either. -/
theorem orLiteral_eq_iff {specifier : String} {outcome : Outcome} :
    orLiteral env specifier outcome = outcome ↔
      (outcome = .ok none → search env specifier = .ok none) := by
  rcases outcome with e | _ | found
  · simp [orLiteral]
  · rw [← passing_eq_none_iff]
    exact ⟨fun h _ => h, fun h => h rfl⟩
  · simp [orLiteral]

section Context

variable {context : Artifact} {specifier target : String}

theorem findAgainst_of_target (h : Reference.resolve context.uri specifier = .ok target) :
    findAgainst env cache context specifier = findAlone env cache target := by
  unfold findAgainst
  rw [h]

theorem findInContext_of_url (h : Reference.resolve context.uri specifier = .ok target)
    (habs : Reference.isAbsolute target = true) :
    findInContext env cache context specifier
      = keeping cache target (openDirectly env target) := by
  unfold findInContext
  rw [h]
  simp only [habs, if_pos]
  rfl

theorem findInContext_of_path (h : Reference.resolve context.uri specifier = .ok target)
    (habs : Reference.isAbsolute target ≠ true) :
    findInContext env cache context specifier = findAlone env cache target := by
  unfold findInContext
  rw [h]
  simp only [habs, if_neg, Bool.false_eq_true, not_false_eq_true]

/-- **The condition is exact.** -/
theorem findUnbased_anchored_iff :
    (findUnbased env cache specifier (some context)).1 = (findAgainst env cache context specifier).1
      ↔ Anchored env cache context specifier := by
  rw [findUnbased_some]
  unfold Anchored
  dsimp only
  rcases h : Reference.resolve context.uri specifier with cause | target
  · have hcontext : (findInContext env cache context specifier).1 = .error (.malformed cause) := by
      unfold findInContext
      rw [h]
    have hagainst : (findAgainst env cache context specifier).1 = .error (.malformed cause) := by
      unfold findAgainst
      rw [h]
    rw [hcontext, hagainst]
    refine ⟨?_, fun _ => rfl⟩
    intro _ target htarget
    cases htarget
  · rw [findAgainst_of_target h]
    by_cases habs : Reference.isAbsolute target = true
    · rw [findInContext_of_url h habs]
      constructor
      · intro heq target' htarget
        obtain rfl := Except.ok.inj htarget
        rw [if_pos habs]
        exact heq
      · intro hall
        have heq := hall target rfl
        rw [if_pos habs] at heq
        exact heq
    · rw [findInContext_of_path h habs]
      constructor
      · intro heq target' htarget
        obtain rfl := Except.ok.inj htarget
        rw [if_neg habs]
        exact orLiteral_eq_iff.mp heq
      · intro hall
        have heq := hall target rfl
        rw [if_neg habs] at heq
        exact orLiteral_eq_iff.mpr heq

end Context

/-! ### What is kept on the way -/

/-- A lookup keeps nothing, or what it answers with. -/
theorem findAlone_cases (env : Environment) (cache : RawCache) (name : String) :
    (findAlone env cache name).2 = cache ∨
      ∃ artifact, cache.get? name = none ∧ Reference.isRelative name = false ∧
        search env name = .ok (some artifact) ∧
        findAlone env cache name
          = (.ok (some ⟨artifact, some (.raw name)⟩), (cache.remember name artifact).2) := by
  rcases hheld : cache.get? name with _ | artifact
  · by_cases hrel : Reference.isRelative name = true
    · rw [findAlone_of_relative hheld hrel]
      exact Or.inl rfl
    · have hfresh := Bool.eq_false_iff.mpr hrel
      rw [findAlone_of_fresh hheld hfresh]
      rcases hsearch : search env name with e | _ | artifact
      · exact Or.inl rfl
      · exact Or.inl rfl
      · refine Or.inr ⟨artifact, rfl, hfresh, rfl, ?_⟩
        rw [keeping_some, RawCache.remember_fst, hheld]
        rfl
  · rw [findAlone_of_held hheld]
    exact Or.inl rfl

/-- A lookup whose answer is not kept under the name changes nothing. -/
theorem findAlone_snd {name : String}
    (h : ∀ artifact, (findAlone env cache name).1 ≠ .ok (some ⟨artifact, some (.raw name)⟩)) :
    (findAlone env cache name).2 = cache := by
  rcases findAlone_cases env cache name with hsame | ⟨artifact, -, -, -, heq⟩
  · exact hsame
  · exact absurd (by rw [heq]) (h artifact)

/-- Only what is kept under a name shows it. -/
theorem passing_ne_kept (result : Except LoadError (Option Artifact)) (name : String)
    (artifact : Artifact) : passing result ≠ .ok (some ⟨artifact, some (.raw name)⟩) := by
  rcases result with e | _ | other <;> simp [passing, Except.map]

/-- Keeping what a lookup answers with is the lookup. -/
theorem keeping_eq_findAlone {name : String} {artifact : Artifact}
    (h : (keeping cache name (.ok (some artifact))).1 = (findAlone env cache name).1) :
    keeping cache name (.ok (some artifact)) = findAlone env cache name := by
  rw [keeping_some, RawCache.remember_fst] at h
  rcases hheld : cache.get? name with _ | old
  · by_cases hrel : Reference.isRelative name = true
    · rw [findAlone_of_relative hheld hrel] at h
      exact absurd h.symm (passing_ne_kept _ _ _)
    · have hfresh := Bool.eq_false_iff.mpr hrel
      rw [findAlone_of_fresh hheld hfresh] at h ⊢
      rcases hsearch : search env name with e | _ | other
      · rw [hsearch] at h
        cases h
      · rw [hsearch] at h
        cases h
      · rw [hsearch] at h
        rw [keeping_some, RawCache.remember_fst, hheld] at h
        simp only [Option.getD_none, Except.ok.injEq, Option.some.injEq, Found.mk.injEq] at h
        rw [h.1]
  · rw [findAlone_of_held hheld]
    unfold keeping RawCache.remember
    rw [hheld]

theorem orLiteral_eq_none {specifier : String} {outcome : Outcome}
    (h : orLiteral env specifier outcome = .ok none) : outcome = .ok none := by
  rcases outcome with e | _ | found
  · exact h
  · rfl
  · exact h

theorem keeping_none_snd {name : String} {result : Except LoadError (Option Artifact)}
    (h : (keeping cache name result).1 = .ok none) : (keeping cache name result).2 = cache := by
  rcases result with e | _ | artifact
  · rfl
  · rfl
  · cases h

theorem findInContext_none_snd {context : Artifact} {specifier : String}
    (h : (findInContext env cache context specifier).1 = .ok none) :
    (findInContext env cache context specifier).2 = cache := by
  rcases hresolve : Reference.resolve context.uri specifier with cause | target
  · unfold findInContext
    rw [hresolve]
  · by_cases habs : Reference.isAbsolute target = true
    · rw [findInContext_of_url hresolve habs] at h ⊢
      exact keeping_none_snd h
    · rw [findInContext_of_path hresolve habs] at h ⊢
      exact findAlone_snd fun artifact hkept => by rw [hkept] at h; cases h

/-- An anchored reference is found in the running module as it is against it, and the same is
kept of it. -/
theorem findUnbased_of_anchored {context : Artifact} {specifier : String}
    (h : Anchored env cache context specifier) :
    findUnbased env cache specifier (some context) = findAgainst env cache context specifier := by
  refine Prod.ext (findUnbased_anchored_iff.mpr h) ?_
  rw [findUnbased_some]
  rcases hresolve : Reference.resolve context.uri specifier with cause | target
  · unfold findInContext findAgainst
    rw [hresolve]
  · rw [findAgainst_of_target hresolve]
    by_cases habs : Reference.isAbsolute target = true
    · have heq := h target hresolve
      rw [if_pos habs] at heq
      rw [findInContext_of_url hresolve habs]
      rcases hopen : openDirectly env target with e | _ | artifact
      · rw [hopen] at heq
        have hanswer : (.error e : Outcome) = (findAlone env cache target).1 := heq
        have hsame : (findAlone env cache target).2 = cache := by
          refine findAlone_snd fun artifact hkept => ?_
          rw [hkept] at hanswer
          cases hanswer
        exact hsame.symm
      · rw [hopen] at heq
        have hanswer : passing (search env specifier) = (findAlone env cache target).1 := heq
        have hsame : (findAlone env cache target).2 = cache :=
          findAlone_snd fun artifact hkept => passing_ne_kept _ _ _ (hanswer.trans hkept)
        exact hsame.symm
      · rw [hopen] at heq
        exact congrArg Prod.snd (keeping_eq_findAlone heq)
    · rw [findInContext_of_path hresolve habs]

/-- A search without a base that finds nothing keeps nothing. -/
theorem findIn_none_snd {specifier : String} {context : Option Artifact}
    (h : (findIn env cache specifier none context).1 = .ok none) :
    (findIn env cache specifier none context).2 = cache := by
  rcases hheld : cache.get? specifier with _ | artifact
  · by_cases hrel : Reference.isRelative specifier = true
    · rw [findIn_of_unbased hheld hrel] at h ⊢
      rcases context with _ | context
      · rfl
      · rw [findUnbased_some] at h ⊢
        exact findInContext_none_snd (orLiteral_eq_none h)
    · rw [findIn_of_fresh hheld (Bool.eq_false_iff.mpr hrel)] at h ⊢
      exact keeping_none_snd h
  · rw [findIn_of_held hheld]

/-! ### The base that is named is the module that is running -/

/-- Looking a name up answers according to what is held under it. -/
theorem findAlone_congr {other : RawCache} {name : String}
    (h : other.get? name = cache.get? name) :
    (findAlone env other name).1 = (findAlone env cache name).1 := by
  rcases hheld : cache.get? name with _ | artifact
  · rw [hheld] at h
    by_cases hrel : Reference.isRelative name = true
    · rw [findAlone_of_relative h hrel, findAlone_of_relative hheld hrel]
    · have hfresh := Bool.eq_false_iff.mpr hrel
      rw [findAlone_of_fresh h hfresh, findAlone_of_fresh hheld hfresh]
      rcases search env name with e | _ | artifact
      · rfl
      · rfl
      · rw [keeping_some, keeping_some, RawCache.remember_fst, RawCache.remember_fst, hheld, h]
  · rw [hheld] at h
    rw [findAlone_of_held h, findAlone_of_held hheld]

/-- One lookup does not change what another one answers. -/
theorem findAlone_again (name other : String) :
    (findAlone env (findAlone env cache name).2 other).1 = (findAlone env cache other).1 := by
  rcases findAlone_cases env cache name with hsame | ⟨artifact, hnone, hfresh, hsearch, heq⟩
  · rw [hsame]
  · have hkept : ∀ key, (findAlone env cache name).2.get? key
        = if key = name then some artifact else cache.get? key := by
      intro key
      rw [heq]
      show (cache.remember name artifact).2.get? key = _
      rw [RawCache.get?_remember, hnone]
      rfl
    by_cases hother : other = name
    · subst hother
      rw [findAlone_of_held ((hkept other).trans (if_pos rfl)), heq]
    · exact findAlone_congr ((hkept other).trans (if_neg hother))

/-- Without a base and a context a module is found by its name alone. -/
theorem find_eq_findAlone (env : Environment) (cache : RawCache) (name : String) :
    find env cache name none = findAlone env cache name := by
  unfold find
  rcases hheld : cache.get? name with _ | artifact
  · by_cases hrel : Reference.isRelative name = true
    · rw [findIn_of_unbased hheld hrel, findAlone_of_relative hheld hrel]
      rfl
    · have hfresh := Bool.eq_false_iff.mpr hrel
      rw [findIn_of_fresh hheld hfresh, findAlone_of_fresh hheld hfresh]
  · rw [findIn_of_held hheld, findAlone_of_held hheld]

section Running

variable {running : Found} {specifier : String}

theorem findIn_of_running
    (hrunning : (find env cache running.artifact.uri none).1 = .ok (some running))
    (hnone : cache.get? specifier = none) (hrel : Reference.isRelative specifier = true)
    (context : Option Artifact) :
    findIn env cache specifier (some running.artifact.uri) context =
      findAgainst env (findAlone env cache running.artifact.uri).2 running.artifact specifier := by
  rw [find_eq_findAlone] at hrunning
  rw [findIn_of_based hnone hrel, hrunning]

/-- **A reference is found in the running module as it is with that module for its base, if
and only if it is anchored.** -/
theorem findIn_anchored_iff
    (hrunning : (find env cache running.artifact.uri none).1 = .ok (some running))
    (hnone : cache.get? specifier = none) (hrel : Reference.isRelative specifier = true) :
    (findIn env cache specifier none (some running.artifact)).1 =
        (findIn env cache specifier (some running.artifact.uri) (some running.artifact)).1
      ↔ Anchored env cache running.artifact specifier := by
  rw [findIn_of_unbased hnone hrel, findIn_of_running hrunning hnone hrel]
  have hagainst : (findAgainst env (findAlone env cache running.artifact.uri).2 running.artifact
      specifier).1 = (findAgainst env cache running.artifact specifier).1 := by
    unfold findAgainst
    rcases Reference.resolve running.artifact.uri specifier with cause | target
    · rfl
    · exact findAlone_again running.artifact.uri target
  rw [hagainst]
  exact findUnbased_anchored_iff

/-- If opening the identity of the running module gives nothing but that module, then asking
for it keeps nothing that a search would not find. -/
theorem widens_running
    (hrunning : (find env cache running.artifact.uri none).1 = .ok (some running))
    (hopens : Reference.isAbsolute running.artifact.uri = true →
      ∀ other, openDirectly env running.artifact.uri = .ok (some other) → other = running.artifact) :
    Widens env cache (findAlone env cache running.artifact.uri).2 := by
  rw [find_eq_findAlone] at hrunning
  rcases findAlone_cases env cache running.artifact.uri with
    hsame | ⟨artifact, hnone, hfresh, hsearch, heq⟩
  · rw [hsame]
    exact .refl env cache
  · rw [heq] at hrunning
    have hfound : (⟨artifact, some (.raw running.artifact.uri)⟩ : Found) = running :=
      Option.some.inj (Except.ok.inj hrunning)
    have hartifact : artifact = running.artifact := congrArg Found.artifact hfound
    rw [hartifact] at hsearch
    rw [heq, hartifact]
    have htells : Tells env running.artifact.uri running.artifact := ⟨hfresh, hsearch, hopens⟩
    exact .runAhead hnone htells

/-- The two searches for an anchored reference leave caches that answer alike. -/
theorem findIn_anchored
    (hrunning : (find env cache running.artifact.uri none).1 = .ok (some running))
    (hwidens : Widens env cache (findAlone env cache running.artifact.uri).2)
    (hanchored : Reference.isRelative specifier = true →
      Anchored env cache running.artifact specifier) :
    Alike (Widens env) (findIn env cache specifier none (some running.artifact))
      (findIn env cache specifier (some running.artifact.uri) (some running.artifact)) := by
  rcases hheld : cache.get? specifier with _ | artifact
  · by_cases hrel : Reference.isRelative specifier = true
    · rw [findIn_of_unbased hheld hrel, findIn_of_running hrunning hheld hrel,
        findUnbased_of_anchored (hanchored hrel)]
      exact findAgainst_alike hwidens running.artifact specifier
    · have hfresh := Bool.eq_false_iff.mpr hrel
      rw [findIn_of_fresh hheld hfresh, findIn_of_fresh hheld hfresh]
      exact ⟨rfl, .refl env _⟩
  · rw [findIn_of_held hheld, findIn_of_held hheld]
    exact ⟨rfl, .refl env _⟩

end Running

end ModuleLoader.Search
