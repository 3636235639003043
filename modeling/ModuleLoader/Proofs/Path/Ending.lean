/-
What references and their targets end in.

A suffix of modules is an ending: it lies within one segment and does not make a dot segment of
it.  A reference and the path that it leads to have the same endings, because either both end
in the same name or the reference names a directory and neither has any.  So it makes no
difference whether a suffix is exchanged before a reference is followed or afterwards
(`sourceCounterpart_resolve`).
-/
import ModuleLoader.Proofs.Archive
import ModuleLoader.Proofs.Path.Clean
import ModuleLoader.Proofs.Url.Scheme
import ModuleLoader.Suffix

namespace ModuleLoader

open Text

namespace Path

/-- An ending that lies within a segment, and with which no segment is a dot segment. -/
structure Ending (ending : List Char) : Prop where
  flat : '/' ∉ ending
  named : ¬ ending <:+ ['.', '.']

instance (ending : List Char) : Decidable (Ending ending) :=
  decidable_of_iff ('/' ∉ ending ∧ ¬ ending <:+ ['.', '.'])
    ⟨fun h => ⟨h.1, h.2⟩, fun h => ⟨h.flat, h.named⟩⟩

variable {ending : List Char}

theorem Ending.nonempty (h : Ending ending) : ending ≠ [] := by
  rintro rfl
  exact h.named List.nil_suffix

/-- With an ending a segment is a name. -/
theorem Ending.ordinary (h : Ending ending) {stem : List Char} (hstem : '/' ∉ stem) :
    Ordinary (stem ++ ending) := by
  have hsuffix : ending <:+ stem ++ ending := List.suffix_append stem ending
  refine ⟨?_, ?_, ?_, ?_⟩
  · simp [h.nonempty]
  · intro heq
    rw [heq] at hsuffix
    exact h.named (hsuffix.trans (List.suffix_cons '.' ['.']))
  · intro heq
    rw [heq] at hsuffix
    exact h.named hsuffix
  · simp [hstem, h.flat]

theorem Ending.not_slash (h : Ending ending) (front : List Char) : ¬ ending <:+ front ++ ['/'] := by
  intro hsuffix
  rcases List.eq_nil_or_concat ending with rfl | ⟨before, last, rfl⟩
  · exact h.nonempty rfl
  · obtain ⟨rest, hrest⟩ := hsuffix
    rw [List.concat_eq_append, ← List.append_assoc] at hrest
    obtain rfl : last = '/' := List.singleton_inj.mp (List.append_inj' hrest rfl).2
    exact h.flat (by simp)

/-- What names a directory leads to a path that ends in a slash, if in anything. -/
theorem normalizeChars_of_directory {path : List Char} (h : namesDirectory path = true) :
    normalizeChars path = [] ∨ ∃ front, normalizeChars path = front ++ ['/'] := by
  rw [normalizeChars_eq, h, Bool.true_and]
  rcases (follow path).reverse with _ | ⟨first, rest⟩
  · by_cases hroot : isRooted path = true
    · rw [if_pos hroot]
      exact Or.inr ⟨[], rfl⟩
    · rw [if_neg hroot]
      exact Or.inl rfl
  · exact Or.inr ⟨_, rfl⟩

/-- A path and what it leads to have the same endings. -/
theorem Ending.suffix_normalizeChars_iff (h : Ending ending) {path : List Char} (hslash : '/' ∈ path) :
    ending <:+ normalizeChars path ↔ ending <:+ path := by
  obtain ⟨front, last, rfl, hflat⟩ : ∃ front last, path = front ++ '/' :: last ∧ '/' ∉ last := by
    rcases hcut : cutLast? '/' path with _ | ⟨front, last⟩
    · exact absurd hslash (cutLast?_eq_none_iff.mp hcut)
    · exact ⟨front, last, cutLast?_eq_some_iff.mp hcut⟩
  have hwhole : ending <:+ front ++ '/' :: last ↔ ending <:+ last := by
    refine ⟨fun hsuffix => ?_, fun hsuffix => ?_⟩
    · have hsplit : front ++ '/' :: last = (front ++ ['/']) ++ last := by simp
      rw [hsplit] at hsuffix
      exact suffix_of_flat h.flat (Or.inr ⟨front, rfl⟩) hsuffix
    · exact (hsuffix.trans (List.suffix_cons '/' last)).trans (List.suffix_append front _)
  rw [hwhole]
  by_cases hdirectory : namesDirectory (front ++ '/' :: last) = true
  · have hlast : ¬ ending <:+ last := by
      intro hsuffix
      obtain ⟨stem, rfl⟩ := hsuffix
      have hordinary := h.ordinary fun hstem => hflat (List.mem_append_left _ hstem)
      rw [(namesDirectory_slash hflat).mpr hordinary] at hdirectory
      cases hdirectory
    refine iff_of_false ?_ hlast
    rcases normalizeChars_of_directory hdirectory with hnil | ⟨before, hbefore⟩
    · rw [hnil]
      exact fun hsuffix => h.nonempty (List.suffix_nil.mp hsuffix)
    · rw [hbefore]
      exact h.not_slash before
  · have hordinary := (namesDirectory_slash hflat).mp (Bool.eq_false_iff.mpr hdirectory)
    obtain ⟨before, hbefore, hnormal⟩ := normalizeChars_ordinary front
    rw [hnormal last hordinary]
    exact ⟨suffix_of_flat h.flat hbefore, fun hsuffix => hsuffix.trans (List.suffix_append before last)⟩

/-- What comes before an ending is followed in the same way whatever the ending is. -/
theorem normalizeChars_ending {stem : List Char} (hslash : '/' ∈ stem) :
    ∃ stem', ∀ ending, Ending ending → normalizeChars (stem ++ ending) = stem' ++ ending := by
  rcases hcut : cutLast? '/' stem with _ | ⟨front, last⟩
  · exact absurd hslash (cutLast?_eq_none_iff.mp hcut)
  · obtain ⟨rfl, hflat⟩ := cutLast?_eq_some_iff.mp hcut
    obtain ⟨before, -, hnormal⟩ := normalizeChars_ordinary front
    refine ⟨before ++ last, ?_⟩
    intro ending h
    rw [List.append_assoc, List.append_assoc]
    exact hnormal (last ++ ending) (h.ordinary hflat)

end Path

namespace Reference

variable {base : String}

theorem slash_mem_of_isRelative {specifier : String} (h : isRelative specifier = true) :
    '/' ∈ specifier.toList := by
  obtain ⟨dots, -, rest, heq⟩ := isRelative_iff.mp h
  rw [heq]
  simp

/-- A relative reference and what it leads to have the same endings. -/
theorem suffix_resolve_iff (hbase : isAbsolute base = false) {reference target : String}
    (hrel : isRelative reference = true) (hresolve : resolve base reference = .ok target)
    {ending : List Char} (h : Path.Ending ending) :
    ending <:+ target.toList ↔ ending <:+ reference.toList := by
  have hslash := slash_mem_of_isRelative hrel
  rw [resolve_of_relative hbase hrel] at hresolve
  obtain rfl := Except.ok.inj hresolve
  rw [String.toList_ofList,
    h.suffix_normalizeChars_iff (List.mem_append_right _ hslash)]
  rcases Path.directory_cases base.toList with ⟨-, hdir⟩ | ⟨before, last, -, -, hdir⟩
  · rw [hdir, List.nil_append]
  · rw [hdir]
    refine ⟨fun hsuffix => ?_, fun hsuffix => hsuffix.trans (List.suffix_append _ _)⟩
    exact suffix_of_flat h.flat (Or.inr ⟨before, rfl⟩) hsuffix

/-- Following a reference keeps its suffix, whichever of two it has. -/
theorem resolve_exchange (hbase : isAbsolute base = false) {stem old new : String}
    (hold : Path.Ending old.toList) (hnew : Path.Ending new.toList)
    (hrel : isRelative (stem ++ old) = true) :
    ∃ stem', resolve base (stem ++ old) = .ok (stem' ++ old) ∧
      resolve base (stem ++ new) = .ok (stem' ++ new) := by
  have hslash : '/' ∈ stem.toList := by
    have hmem := slash_mem_of_isRelative hrel
    rw [String.toList_append] at hmem
    rcases List.mem_append.mp hmem with hmem | hmem
    · exact hmem
    · exact absurd hmem hold.flat
  have hwhole : '/' ∈ Path.directory base.toList ++ stem.toList := List.mem_append_right _ hslash
  obtain ⟨stem', hstem'⟩ := Path.normalizeChars_ending hwhole
  have hresolve : ∀ ending : String, Path.Ending ending.toList →
      isRelative (stem ++ ending) = true →
      resolve base (stem ++ ending) = .ok (String.ofList stem' ++ ending) := by
    intro ending h hending
    rw [resolve_of_relative hbase hending, String.toList_append, ← List.append_assoc,
      hstem' ending.toList h]
    refine congrArg Except.ok (String.toList_inj.mp ?_)
    simp
  exact ⟨String.ofList stem', hresolve old hold hrel,
    hresolve new hnew (isRelative_of_append hold.flat hrel)⟩

end Reference

namespace SuffixConvention

/-- Both suffixes are endings, without colons and backslashes. -/
structure Endings (convention : SuffixConvention) : Prop where
  compiled : Path.Ending convention.compiled.toList
  source : Path.Ending convention.source.toList
  compiledPlain : Plain convention.compiled.toList
  sourcePlain : Plain convention.source.toList

instance (convention : SuffixConvention) : Decidable convention.Endings :=
  decidable_of_iff (Path.Ending convention.compiled.toList ∧ Path.Ending convention.source.toList ∧
      Plain convention.compiled.toList ∧ Plain convention.source.toList)
    ⟨fun h => ⟨h.1, h.2.1, h.2.2.1, h.2.2.2⟩,
      fun h => ⟨h.compiled, h.source, h.compiledPlain, h.sourcePlain⟩⟩

variable {convention : SuffixConvention}

theorem hasSuffix_iff {suffix name : String} :
    hasSuffix suffix name = true ↔ suffix.toList <:+ name.toList := by
  unfold hasSuffix
  rw [Option.isSome_iff_exists]
  exact ⟨fun ⟨stem, hstem⟩ => ⟨stem, (dropEnd?_eq_some_iff.mp hstem).symm⟩,
    fun ⟨stem, hstem⟩ => ⟨stem, dropEnd?_eq_some_iff.mpr hstem.symm⟩⟩

theorem kindOf_eq_compiled_iff {name : String} :
    convention.kindOf name = .compiled ↔ convention.compiled.toList <:+ name.toList := by
  refine ⟨?_, kindOf_of_suffix⟩
  intro h
  unfold kindOf at h
  by_cases hsuffix : hasSuffix convention.compiled name = true
  · exact hasSuffix_iff.mp hsuffix
  · rw [if_neg hsuffix] at h
    split at h <;> cases h

theorem exchange_eq_none_iff {old new name : String} :
    exchange old new name = none ↔ ¬ old.toList <:+ name.toList := by
  unfold exchange
  rw [Option.map_eq_none_iff, Option.eq_none_iff_forall_ne_some]
  constructor
  · rintro h ⟨stem, hstem⟩
    exact h stem (dropEnd?_eq_some_iff.mpr hstem.symm)
  · intro h stem hstem
    exact h ⟨stem, (dropEnd?_eq_some_iff.mp hstem).symm⟩

theorem sourceCounterpart_eq_none_iff {name : String} :
    convention.sourceCounterpart name = none ↔ ¬ convention.compiled.toList <:+ name.toList :=
  exchange_eq_none_iff

theorem compiledCounterpart_eq_none_iff {name : String} :
    convention.compiledCounterpart name = none ↔ ¬ convention.source.toList <:+ name.toList :=
  exchange_eq_none_iff

theorem counterparts {name source : String} :
    convention.sourceCounterpart name = some source ↔
      convention.compiledCounterpart source = some name := by
  unfold sourceCounterpart compiledCounterpart
  rw [exchange_eq_some_iff, exchange_eq_some_iff]
  exact ⟨fun ⟨stem, hname, hsource⟩ => ⟨stem, hsource, hname⟩,
    fun ⟨stem, hsource, hname⟩ => ⟨stem, hname, hsource⟩⟩

/-- What a relative reference leads to has no source if the reference has none. -/
theorem sourceCounterpart_resolve_none (hendings : convention.Endings) {base name target : String}
    (hbase : Reference.isAbsolute base = false) (hrel : Reference.isRelative name = true)
    (hresolve : Reference.resolve base name = .ok target)
    (hname : convention.sourceCounterpart name = none) :
    convention.sourceCounterpart target = none := by
  rw [sourceCounterpart_eq_none_iff] at hname ⊢
  rwa [Reference.suffix_resolve_iff hbase hrel hresolve hendings.compiled]

variable (hendings : convention.Endings) {name source : String}
  (hname : convention.sourceCounterpart name = some source)

include hendings hname

/-- A module and its source are both known by URLs or both by logical paths. -/
theorem isAbsolute_sourceCounterpart :
    Reference.isAbsolute source = Reference.isAbsolute name := by
  obtain ⟨stem, rfl, rfl⟩ := exchange_eq_some_iff.mp hname
  unfold Reference.isAbsolute
  rw [String.toList_append, String.toList_append,
    Reference.isAbsoluteChars_append hendings.sourcePlain.colon,
    Reference.isAbsoluteChars_append hendings.compiledPlain.colon]

theorem isRelative_sourceCounterpart :
    Reference.isRelative source = Reference.isRelative name := by
  obtain ⟨stem, rfl, rfl⟩ := exchange_eq_some_iff.mp hname
  rw [Bool.eq_iff_iff]
  exact ⟨Reference.isRelative_of_append hendings.source.flat,
    Reference.isRelative_of_append hendings.compiled.flat⟩

/-- What a source with a path in normal form is compiled to has one, too. -/
theorem normal_of_sourceCounterpart (h : Archive.Normal source.toList) :
    Archive.Normal name.toList := by
  obtain ⟨stem, rfl, rfl⟩ := exchange_eq_some_iff.mp hname
  rw [String.toList_append] at h ⊢
  exact h.exchange hendings.compiled.nonempty hendings.compiled.flat hendings.compiledPlain.backslash

/-- **The source of a target is the target of the source.** -/
theorem sourceCounterpart_resolve {base target : String}
    (hbase : Reference.isAbsolute base = false) (hrel : Reference.isRelative name = true)
    (hresolve : Reference.resolve base name = .ok target) :
    ∃ target', convention.sourceCounterpart target = some target' ∧
      Reference.resolve base source = .ok target' := by
  obtain ⟨stem, rfl, rfl⟩ := exchange_eq_some_iff.mp hname
  obtain ⟨stem', hold, hnew⟩ :=
    Reference.resolve_exchange hbase hendings.compiled hendings.source hrel
  obtain rfl := Except.ok.inj (hresolve.symm.trans hold)
  exact ⟨stem' ++ convention.source, exchange_eq_some_iff.mpr ⟨stem', rfl, rfl⟩, hnew⟩

/-- If the reference to a source leads to a logical path, wherever it stands, then what that is
compiled to is what the reference to the compiled module leads to. -/
theorem resolve_of_sourceCounterpart {base source' : String}
    (hrel : Reference.isRelative name = true)
    (hresolve : Reference.resolve base source = .ok source')
    (hlogical : Reference.isAbsolute source' = false) :
    ∃ target, Reference.resolve base name = .ok target ∧
      convention.sourceCounterpart target = some source' := by
  by_cases hbase : Reference.isAbsolute base = true
  · rcases Reference.resolve_of_url hbase hresolve with habs | hliteral
    · rw [habs] at hlogical
      cases hlogical
    · obtain rfl := Except.ok.inj (hresolve.symm.trans (hliteral source))
      exact ⟨name, hliteral name, hname⟩
  · have hbase := Bool.eq_false_iff.mpr hbase
    have htarget := Reference.resolve_of_relative hbase hrel
    obtain ⟨target', hcounterpart, hsource⟩ :=
      sourceCounterpart_resolve hendings hname hbase hrel htarget
    obtain rfl := Except.ok.inj (hresolve.symm.trans hsource)
    exact ⟨_, htarget, hcounterpart⟩

end SuffixConvention

end ModuleLoader
