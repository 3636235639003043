/-
Suffixes that tell sources from compiled modules.

One suffix can be the end of the other, as `.js` is of `.min.js`, and the checks of settings let
that pass.  Then some names have both suffixes.  The kind of such a name is told by the compiled
suffix, which is looked at first, but it has a compiled counterpart like a source.  Counterparts
lead from sources to compiled modules and back exactly if neither suffix is the end of the other
(`proper_iff`).
-/
import ModuleLoader.Proofs.Path.Ending

namespace ModuleLoader.SuffixConvention

variable {convention : SuffixConvention} {name : String}

/-- Neither suffix is the end of the other. -/
structure Apart (convention : SuffixConvention) : Prop where
  source : ¬ convention.source.toList <:+ convention.compiled.toList
  compiled : ¬ convention.compiled.toList <:+ convention.source.toList

instance (convention : SuffixConvention) : Decidable convention.Apart :=
  decidable_of_iff (¬ convention.source.toList <:+ convention.compiled.toList ∧
      ¬ convention.compiled.toList <:+ convention.source.toList)
    ⟨fun h => ⟨h.1, h.2⟩, fun h => ⟨h.source, h.compiled⟩⟩

/-- Counterparts lead from sources to compiled modules, and from compiled modules to sources, and
back again. -/
structure Proper (convention : SuffixConvention) : Prop where
  ofSource : ∀ source compiled, convention.compiledCounterpart source = some compiled →
    convention.kindOf source = .source ∧ convention.kindOf compiled = .compiled ∧
      convention.sourceCounterpart compiled = some source
  ofCompiled : ∀ compiled source, convention.sourceCounterpart compiled = some source →
    convention.kindOf compiled = .compiled ∧ convention.kindOf source = .source ∧
      convention.compiledCounterpart source = some compiled

/-- A name with both suffixes has one of them at the end of the other. -/
theorem Apart.not_both (h : convention.Apart) (hcompiled : convention.compiled.toList <:+ name.toList) :
    ¬ convention.source.toList <:+ name.toList := by
  intro hsource
  rcases List.suffix_or_suffix_of_suffix hcompiled hsource with hle | hle
  · exact h.compiled hle
  · exact h.source hle

/-- The compiled suffix is looked at first. -/
theorem kindOf_eq_source_iff : convention.kindOf name = .source ↔
    convention.source.toList <:+ name.toList ∧ ¬ convention.compiled.toList <:+ name.toList := by
  unfold kindOf
  rw [← hasSuffix_iff, ← hasSuffix_iff]
  by_cases hcompiled : hasSuffix convention.compiled name = true
  · simp [hcompiled]
  · by_cases hsource : hasSuffix convention.source name = true
    · simp [hcompiled, hsource]
    · simp [hcompiled, hsource]

theorem suffixes_of_compiledCounterpart {source compiled : String}
    (h : convention.compiledCounterpart source = some compiled) :
    convention.source.toList <:+ source.toList ∧
      convention.compiled.toList <:+ compiled.toList := by
  obtain ⟨stem, rfl, rfl⟩ := exchange_eq_some_iff.mp h
  rw [String.toList_append, String.toList_append]
  exact ⟨List.suffix_append _ _, List.suffix_append _ _⟩

theorem Apart.proper (h : convention.Apart) : convention.Proper := by
  have hkinds : ∀ source compiled, convention.compiledCounterpart source = some compiled →
      convention.kindOf source = .source ∧ convention.kindOf compiled = .compiled := by
    intro source compiled hname
    obtain ⟨hsource, hcompiled⟩ := suffixes_of_compiledCounterpart hname
    exact ⟨kindOf_eq_source_iff.mpr ⟨hsource, fun hboth => h.not_both hboth hsource⟩,
      kindOf_of_suffix hcompiled⟩
  refine ⟨?_, ?_⟩
  · intro source compiled hname
    obtain ⟨hsource, hcompiled⟩ := hkinds source compiled hname
    exact ⟨hsource, hcompiled, counterparts.mpr hname⟩
  · intro compiled source hname
    obtain ⟨hsource, hcompiled⟩ := hkinds source compiled (counterparts.mp hname)
    exact ⟨hcompiled, hsource, counterparts.mp hname⟩

/-- If one suffix is the end of the other, the longer one is a name with both. -/
theorem exists_both (h : ¬ convention.Apart) : ∃ longer : String,
    convention.source.toList <:+ longer.toList ∧ convention.compiled.toList <:+ longer.toList := by
  by_cases hsource : convention.source.toList <:+ convention.compiled.toList
  · exact ⟨_, hsource, List.suffix_refl _⟩
  · by_cases hcompiled : convention.compiled.toList <:+ convention.source.toList
    · exact ⟨_, List.suffix_refl _, hcompiled⟩
    · exact absurd ⟨hsource, hcompiled⟩ h

/-- **Counterparts keep the forms apart exactly if the suffixes do.** -/
theorem proper_iff : convention.Proper ↔ convention.Apart := by
  refine ⟨fun h => ?_, Apart.proper⟩
  by_contra hnot
  obtain ⟨longer, hsource, hcompiled⟩ := exists_both hnot
  rcases hname : convention.compiledCounterpart longer with _ | target
  · exact compiledCounterpart_eq_none_iff.mp hname hsource
  · have hkind := (h.ofSource longer target hname).1
    rw [kindOf_of_suffix hcompiled] at hkind
    cases hkind

end ModuleLoader.SuffixConvention
