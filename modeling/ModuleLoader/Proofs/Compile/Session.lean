/-
What identities are worth as bases.

A session is made of requests, one after the other, in one environment.  An identity that was
handed out may come back as a base, and a base is looked up by its name.  Two cases are told
apart by where the module came from.  One that was found is found again, so a reference is
resolved against its identity, wherever the request comes from (`executableIn_against`).  One that
was compiled is not found: it stands in a slot, and its name finds nothing.  Such a base is as
good as none, and the reference means what it means without one (`executableIn_unbased`).
-/
import ModuleLoader.Proofs.Compile.Shelves

namespace ModuleLoader.OnDemand

open Search

variable {σ : Type} {env : Environment} {compiler : Compiler σ}

/-! ### Sessions -/

/-- Requests one after the other, each with any base and any context.  The state of the host may
change in between.  `past` is what they have come to. -/
inductive Session (env : Environment) (compiler : Compiler σ) :
    List Outcome → CompileState σ → Prop
  | start (host : σ) : Session env compiler [] { host := host }
  | moved {past : List Outcome} {state : CompileState σ} (host : σ)
      (h : Session env compiler past state) : Session env compiler past { state with host := host }
  | asked {past : List Outcome} {state : CompileState σ} (specifier : String)
      (base : Option String) (context : Option Artifact) (h : Session env compiler past state) :
      Session env compiler (past ++ [(executableIn env compiler state specifier base context).1])
        (executableIn env compiler state specifier base context).2

/-- What holds of the state of a session. -/
structure Settled (env : Environment) (past : List Outcome) (state : CompileState σ) : Prop where
  grounded : Grounded env state.raw
  unfound : Unfound env state
  /-- Whatever was handed out is still where it was. -/
  stands : ∀ found, .ok (some found) ∈ past → Stands env state found

theorem Session.settled (hendings : env.settings.convention.Endings) {past : List Outcome}
    {state : CompileState σ} (h : Session env compiler past state) : Settled env past state := by
  induction h with
  | start host =>
      refine ⟨grounded_empty env, ?_, ?_⟩
      · intro source artifact hslot
        cases hslot
      · intro found hfound
        cases hfound
  | moved host _ ih =>
      refine ⟨ih.grounded, ih.unfound, ?_⟩
      intro found hfound
      cases ih.stands found hfound with
      | found name _ h => exact .found name found h
      | compiled source artifact h => exact .compiled source artifact h
  | @asked past state specifier base context _ ih =>
      have hdoes := answer_does compiler state ⟨env, specifier, base, context⟩
      refine ⟨executableIn_grounded compiler specifier base context ih.grounded,
        hdoes.unfound ih.grounded hendings ih.unfound, ?_⟩
      intro found hfound
      rcases List.mem_append.mp hfound with hfound | hfound
      · exact (ih.stands found hfound).executableIn compiler specifier base context
      · exact hdoes.stands ih.grounded (List.mem_singleton.mp hfound).symm

section Settled

variable {past : List Outcome} {state : CompileState σ} {found : Found}

/-- What was found under a logical path is found again, and nothing else is kept. -/
theorem Settled.findAlone_of_found (h : Settled env past state) (hpast : .ok (some found) ∈ past)
    (hlogical : Reference.isAbsolute found.artifact.uri = false)
    (hshelf : ∀ source, found.shelf ≠ some (.compiled source)) :
    findAlone env state.raw found.artifact.uri = (.ok (some found), state.raw) := by
  cases h.stands found hpast with
  | found name _ hhands =>
      rw [(hhands.knownBy h.grounded.labelled).uri_eq hlogical]
      exact hhands.findAlone h.grounded
  | compiled source artifact _ => exact absurd rfl (hshelf source)

/-- What was compiled from a source with a logical path is not found. -/
theorem Settled.findAlone_of_compiled (h : Settled env past state)
    (hpast : .ok (some found) ∈ past)
    (hlogical : Reference.isAbsolute found.artifact.uri = false) {source : String}
    (hshelf : found.shelf = some (.compiled source))
    (hsource : Reference.isAbsolute source = false) :
    findAlone env state.raw found.artifact.uri = (.ok none, state.raw) := by
  cases h.stands found hpast with
  | found name _ hhands => cases hhands <;> cases hshelf
  | compiled other artifact hslot =>
      obtain rfl := Shelf.compiled.inj (Option.some.inj hshelf)
      exact findAlone_of_unfound h.grounded hlogical (h.unfound other artifact hslot hsource)

end Settled

/-! ### Requests with a base -/

section Bases

variable {state : CompileState σ} {specifier base : String} (hg : Grounded env state.raw)
  (hendings : env.settings.convention.Endings) (hrel : Reference.isRelative specifier = true)
  (context : Option Artifact)

/-- A source that has a compiled counterpart is compiled to the same whatever it was asked for
as. -/
theorem compileOnce_requested (state : CompileState σ) {source name : String}
    (h : env.settings.convention.compiledCounterpart source = some name) (requested other : String) :
    compileOnce env compiler state source requested = compileOnce env compiler state source other := by
  unfold compileOnce compile
  rw [h]
  rfl

/-- Requests that find the same come to the same if they do so for the source. -/
theorem executableIn_congr (compiler : Compiler σ) (state : CompileState σ) {specifier other : String}
    {base : Option String} {context context' : Option Artifact}
    (hfind : findIn env state.raw specifier base context = findIn env state.raw other none context')
    (hsource : findIn env state.raw other none context' = (.ok none, state.raw) →
      fromSource env compiler state specifier base context
        = fromSource env compiler state other none context') :
    executableIn env compiler state specifier base context
      = executableIn env compiler state other none context' := by
  rcases hx : findIn env state.raw other none context' with ⟨e | _ | found, raw⟩
  · unfold executableIn
    rw [hfind, hx]
  · obtain rfl : raw = state.raw := by
      have hkept := findIn_none_snd (congrArg Prod.fst hx)
      rwa [hx] at hkept
    rw [executableIn_of_unfound compiler state (hfind.trans hx),
      executableIn_of_unfound compiler state hx]
    exact hsource hx
  · unfold executableIn
    rw [hfind, hx]

include hg hendings in
/-- What a logical path comes down to is a source with that path for its compiled counterpart. -/
theorem counterpart_of_logical {target counterpart : String} {source : Found}
    (hname : env.settings.convention.sourceCounterpart target = some counterpart)
    (hfound : (findIn env state.raw counterpart none none).1 = .ok (some source))
    (hlogical : Reference.isAbsolute target = false) :
    env.settings.convention.compiledCounterpart source.artifact.uri = some target := by
  have halone := congrArg Prod.fst (find_eq_findAlone env state.raw counterpart)
  have hhands := findAlone_handsOut (halone.symm.trans hfound)
  have hkept := (findAlone_keeps env state.raw counterpart).grounded hg
  have hcounterpart : Reference.isAbsolute counterpart = false := by
    rw [SuffixConvention.isAbsolute_sourceCounterpart hendings hname, hlogical]
  rw [hhands.uri_eq hkept hcounterpart]
  exact SuffixConvention.counterparts.mp hname

include hg hrel

theorem findIn_against {found : Found} {target : String}
    (hbase : findAlone env state.raw base = (.ok (some found), state.raw))
    (hresolve : Reference.resolve found.artifact.uri specifier = .ok target) :
    findIn env state.raw specifier (some base) context = findIn env state.raw target none none := by
  rw [findIn_of_based (hg.get?_relative hrel) hrel, hbase]
  simp only [findAgainst_of_target hresolve]
  exact (find_eq_findAlone env state.raw target).symm

theorem findIn_unbased (hbase : findAlone env state.raw base = (.ok none, state.raw)) :
    findIn env state.raw specifier (some base) context
      = findIn env state.raw specifier none context := by
  rw [findIn_of_based (hg.get?_relative hrel) hrel, hbase,
    findIn_of_unbased (hg.get?_relative hrel) hrel]

include hendings

/-- **With a base that is found, a request is that for what the reference leads to**, for a
logical path and, if no source is compiled that has no compiled counterpart, for a URL. -/
theorem executableIn_against (compiler : Compiler σ) {found : Found} {target : String}
    (hbase : findAlone env state.raw base = (.ok (some found), state.raw))
    (hlogical : Reference.isAbsolute found.artifact.uri = false)
    (hresolve : Reference.resolve found.artifact.uri specifier = .ok target)
    (hurl : Reference.isAbsolute target = true → ∀ source raw,
      Reaches ⟨env, target, none, none⟩ state.raw source raw →
      ∃ name, env.settings.convention.compiledCounterpart source = some name) :
    executableIn env compiler state specifier (some base) context
      = executableIn env compiler state target none none := by
  refine executableIn_congr compiler state (findIn_against hg hrel context hbase hresolve) ?_
  intro hx
  unfold fromSource
  rcases hname : env.settings.convention.sourceCounterpart specifier with _ | counterpart
  · rw [SuffixConvention.sourceCounterpart_resolve_none hendings hlogical hrel hresolve hname]
  · obtain ⟨target', hname', hresolve'⟩ :=
      SuffixConvention.sourceCounterpart_resolve hendings hname hlogical hrel hresolve
    have hrel' := SuffixConvention.isRelative_sourceCounterpart hendings hname
    rw [hrel] at hrel'
    rw [hname']
    simp only [findIn_against hg hrel' context hbase hresolve']
    rcases hy : findIn env state.raw target' none none with ⟨e | _ | source, raw⟩
    · rfl
    · rfl
    · have hcounterpart : ∃ name,
          env.settings.convention.compiledCounterpart source.artifact.uri = some name := by
        by_cases habs : Reference.isAbsolute target = true
        · exact hurl habs _ raw ⟨state.raw, target', source, hx, hname', hy, rfl⟩
        · have hy := congrArg Prod.fst hy
          exact ⟨target, counterpart_of_logical hg hendings hname' hy (Bool.eq_false_iff.mpr habs)⟩
      obtain ⟨name, hname''⟩ := hcounterpart
      exact compileOnce_requested _ hname'' specifier target

/-- **With a base that is not found, a request is that without a base.** -/
theorem executableIn_unbased (compiler : Compiler σ)
    (hbase : findAlone env state.raw base = (.ok none, state.raw)) :
    executableIn env compiler state specifier (some base) context
      = executableIn env compiler state specifier none context := by
  refine executableIn_congr compiler state (findIn_unbased hg hrel context hbase) ?_
  intro _
  unfold fromSource
  rcases hname : env.settings.convention.sourceCounterpart specifier with _ | counterpart
  · rfl
  · have hrel' := SuffixConvention.isRelative_sourceCounterpart hendings hname
    rw [hrel] at hrel'
    simp only [findIn_unbased hg hrel' context hbase]

end Bases

end ModuleLoader.OnDemand
