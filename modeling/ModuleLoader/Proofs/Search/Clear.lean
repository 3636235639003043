/-
Specifiers that steer clear of dependency directories.

Dependencies are looked for behind a dependency directory, but a module that mentions one
names it from the outside: by a name that is not relative.  Relative specifiers that do not
name the directory themselves never lead further into it than the module they stand in
(`Search/Stem`).  So all identities that come up lie near the beginning of paths: their stems
are no longer than the names that were asked for, and what is found is no longer than its stem
and a name together.
-/
import ModuleLoader.Proofs.Reference
import ModuleLoader.Proofs.Search.Plain
import ModuleLoader.Proofs.Search.Yields

namespace ModuleLoader

open Text

namespace Search

/-! ### What modules are asked for by -/

/-- A plain name of at most `room` characters. -/
structure Named (room : Nat) (u : String) : Prop where
  plain : Plain u.toList
  short : u.length ≤ room

/-- A plain name that, if it is a relative specifier, does not name the dependency directory. -/
structure Clear (name : Path.Segment) (room : Nat) (specifier : String) : Prop
    extends Named room specifier where
  clear : Reference.isRelative specifier = true → name ∉ split '/' specifier.toList

theorem Named.mono {room larger : Nat} (hle : room ≤ larger) {u : String} (h : Named room u) :
    Named larger u := ⟨h.plain, Nat.le_trans h.short hle⟩

theorem Clear.mono {name : Path.Segment} {room larger : Nat} (hle : room ≤ larger)
    {specifier : String} (h : Clear name room specifier) : Clear name larger specifier :=
  ⟨h.toNamed.mono hle, h.clear⟩

/-- Dependencies lie in one directory, and the suffixes of modules are plain and stay within
one segment; no source is called like the dependency directory. -/
structure OneDirectory (settings : Settings) (name : Path.Segment) : Prop where
  marker : settings.dependencyMarker.toList = name ++ ['/']
  nonempty : name ≠ []
  flat : '/' ∉ name
  compiled : Plain settings.compiledSuffix.toList ∧ '/' ∉ settings.compiledSuffix.toList
  source : Plain settings.sourceSuffix.toList ∧ '/' ∉ settings.sourceSuffix.toList
  apart : ¬ settings.sourceSuffix.toList <:+ name

/-- The source of a module is as clear as the module. -/
theorem Clear.sourceCounterpart {settings : Settings} {name : Path.Segment}
    (hone : OneDirectory settings name) {room : Nat} {specifier counterpart : String}
    (h : Clear name room specifier)
    (hname : settings.convention.sourceCounterpart specifier = some counterpart) :
    Clear name (room + settings.sourceSuffix.length) counterpart := by
  obtain ⟨stem, rfl, rfl⟩ : ∃ stem, specifier = stem ++ settings.compiledSuffix ∧
      counterpart = stem ++ settings.sourceSuffix :=
    SuffixConvention.exchange_eq_some_iff.mp hname
  have hplain := h.plain
  have hshort := h.short
  have hclear := h.clear
  rw [String.toList_append] at hplain hclear
  rw [String.length_append] at hshort
  have hstem : Plain stem.toList :=
    hplain.of_subset fun c hc _ => List.mem_append_left _ hc
  refine ⟨⟨?_, ?_⟩, ?_⟩
  · rw [String.toList_append]
    exact hstem.append hone.source.1
  · rw [String.length_append]
    omega
  · intro hrel hmem
    obtain ⟨front, last, -, hsplit⟩ := split_append '/' stem.toList
    have hnot := hclear (Reference.isRelative_of_append hone.source.2 hrel)
    rw [hsplit _ hone.compiled.2] at hnot
    rw [String.toList_append, hsplit _ hone.source.2] at hmem
    rcases List.mem_append.mp hmem with hmem | hmem
    · exact hnot (List.mem_append_left _ hmem)
    · exact hone.apart ⟨last, (List.mem_singleton.mp hmem).symm⟩

/-! ### Where identities lie -/

/-- A plain identity with a stem no longer than a name. -/
structure Near (name : Path.Segment) (room : Nat) (u : String) : Prop where
  plain : Plain u.toList
  stem : Path.weight (Path.stem name u.toList) ≤ room + 1

/-- An artifact that lies near, with an identity and a text as they come up. -/
structure Known (name : Path.Segment) (room reach : Nat) (T : String → Prop)
    (artifact : Artifact) : Prop where
  near : Near name room artifact.uri
  short : artifact.uri.length ≤ reach
  text : T artifact.contents

theorem Named.near {name : Path.Segment} {room : Nat} {u : String} (h : Named room u) :
    Near name room u := by
  have hstem : Path.weight (Path.stem name u.toList) ≤ u.toList.length + 1 :=
    Path.weight_stem_le u.toList
  rw [String.length_toList] at hstem
  have hshort := h.short
  exact ⟨h.plain, by omega⟩

/-- What a source is compiled to lies where the source lies. -/
theorem Near.compiledCounterpart {settings : Settings} {name : Path.Segment}
    (hone : OneDirectory settings name) {room : Nat} {source counterpart : String}
    (h : Near name room source)
    (hname : settings.convention.compiledCounterpart source = some counterpart) :
    Near name room counterpart ∧
      counterpart.length ≤ source.length + settings.compiledSuffix.length := by
  obtain ⟨stem, rfl, rfl⟩ : ∃ stem, source = stem ++ settings.sourceSuffix ∧
      counterpart = stem ++ settings.compiledSuffix :=
    SuffixConvention.exchange_eq_some_iff.mp hname
  have hplain := h.plain
  have hweight := h.stem
  rw [String.toList_append] at hplain hweight
  rw [Path.stem_append hone.source.2] at hweight
  have hstem : Plain stem.toList :=
    hplain.of_subset fun c hc _ => List.mem_append_left _ hc
  refine ⟨⟨?_, ?_⟩, ?_⟩
  · rw [String.toList_append]
    exact hstem.append hone.compiled.1
  · rw [String.toList_append, Path.stem_append hone.compiled.2]
    exact hweight
  · rw [String.length_append, String.length_append]
    omega

/-! ### Clear specifiers lead to what lies near -/

/-- All resources are in memory, and no path and no name of a resource is longer than `room`. -/
structure Within (env : Environment) (room : Nat) : Prop where
  memory : InMemory env.resources
  paths : ∀ path ∈ env.archive.paths, path.length ≤ room
  resources : ∀ resource ∈ memoryFiles env.resources, resource.1.length ≤ room

theorem Within.mono {env : Environment} {room larger : Nat} (hle : room ≤ larger)
    (h : Within env room) : Within env larger :=
  ⟨h.memory, fun path hpath => Nat.le_trans (h.paths path hpath) hle,
    fun resource hresource => Nat.le_trans (h.resources resource hresource) hle⟩

section Known

variable {env : Environment} {name : Path.Segment} {room : Nat} {T : String → Prop}

theorem finds_of_near (hwithin : Within env room) (htexts : ∀ text, Holds env text → T text)
    {u : String} {reach : Nat} (h : Near name room u) (hshort : u.length ≤ reach) :
    Finds env (Known name room reach T) u := by
  intro artifact hfound
  obtain ⟨huri, hholds, -⟩ := search_plain hwithin.memory h.plain.colon hfound
  rw [← huri] at h hshort
  exact ⟨h, hshort, htexts _ hholds⟩

theorem leads_of_near (hone : OneDirectory env.settings name) (hwithin : Within env room)
    (htexts : ∀ text, Holds env text → T text) {u reference : String} (h : Near name room u)
    (hclear : Clear name room reference) (hrel : Reference.isRelative reference = true) :
    Leads env (Known name room (2 * room + 2) T) u reference := by
  have hrooted := Reference.isRooted_of_isRelative hrel
  have hresolve := Reference.resolve_of_relative (Reference.isAbsolute_of_plain h.plain) hrel
  have hplain : Plain (Path.normalizeChars (Path.directory u.toList ++ reference.toList)) := by
    refine (h.plain.append hclear.plain).of_subset ?_
    intro c hc hslash
    rcases List.mem_append.mp (Path.mem_normalizeChars hc hslash) with hc | hc
    · exact List.mem_append_left _ ((Path.directory_start _).subset hc)
    · exact List.mem_append_right _ hc
  have hstem := Path.weight_stem_normalizeChars u.toList reference.toList hrooted
    (hclear.clear hrel)
  have hnear : Near name room
      (String.ofList (Path.normalizeChars (Path.directory u.toList ++ reference.toList))) := by
    refine ⟨?_, ?_⟩
    · rw [String.toList_ofList]
      exact hplain
    · rw [String.toList_ofList]
      exact Nat.le_trans hstem h.stem
  refine ⟨?_, ?_⟩
  · intro target htarget artifact hfound
    obtain rfl := Except.ok.inj (hresolve.symm.trans htarget)
    have hlength := length_le_of_search hwithin.memory hone.marker hone.nonempty hone.flat
      hwithin.paths hwithin.resources hplain.colon hplain.backslash hfound
    have hbound := Nat.le_trans hstem h.stem
    refine finds_of_near hwithin htexts hnear ?_ artifact hfound
    rw [String.length_ofList]
    omega
  · intro target htarget habs
    obtain rfl := Except.ok.inj (hresolve.symm.trans htarget)
    rw [Reference.isAbsolute_of_plain hnear.plain] at habs
    cases habs

/-- **Clear specifiers keep to what lies near.** -/
theorem stays_of_clear (hone : OneDirectory env.settings name) (hwithin : Within env room)
    (htexts : ∀ text, Holds env text → T text) {specifier : String} {base : Option String}
    {context : Option Artifact} (hclear : Clear name room specifier)
    (hbase : ∀ u ∈ base, Near name room u ∧ u.length ≤ 2 * room + 2)
    (hcontext : ∀ running ∈ context, Near name room running.uri) :
    Stays env (Known name room (2 * room + 2) T) specifier base context := by
  have hshort := hclear.short
  refine stays ?_ ?_ ?_ ?_
  · exact finds_of_near hwithin htexts hclear.near (by omega)
  · intro u hu
    exact finds_of_near hwithin htexts (hbase u hu).1 (hbase u hu).2
  · intro hrel artifact hknown
    exact leads_of_near hone hwithin htexts hknown.near hclear hrel
  · intro hrel running hrunning
    exact leads_of_near hone hwithin htexts (hcontext running hrunning) hclear hrel

end Known

end Search

end ModuleLoader
