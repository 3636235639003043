/-
What a batch leaves of the sources.

A batch adds a file for every source that it compiles.  Nothing but the suffix keeps that file
from taking the place of a source, or from being taken for one.  So the sources of every archive
come out of every batch as they went in exactly if no source is compiled onto a source
(`keepsSources_iff`), and suffixes that are apart see to that (`spares_of_apart`).
-/
import ModuleLoader.Proofs.Compile.Batch
import ModuleLoader.Proofs.Suffix

namespace ModuleLoader.WholeArchive

open Archive (Normal normalForm)

variable {σ : Type} {settings : Settings} {archive output : Archive}

/-- No source is compiled onto a source. -/
def Spares (settings : Settings) : Prop :=
  ∀ source target, Normal source.toList → isSource settings source = true →
    settings.convention.compiledCounterpart source = some target →
    isSource settings (normalForm target) = false

/-- The archives have the same sources, with the same texts. -/
structure SameSources (settings : Settings) (archive output : Archive) : Prop where
  paths : sources settings output = sources settings archive
  texts : ∀ source ∈ sources settings archive,
    output.findFile source = archive.findFile source

/-- Every batch that succeeds gives the sources back as they are, whatever the archive and the
compiler. -/
def KeepsSources (settings : Settings) : Prop :=
  ∀ (σ : Type) (env : Environment) (compiler : Compiler σ) (host : σ) (output : Archive),
    env.settings = settings → env.archive.Tidy → (compile env compiler host).1 = .ok output →
    SameSources settings env.archive output

/-! ### Paths of sources -/

theorem occursIn_iff {find cs : List Char} : Text.occursIn find cs = true ↔ find <:+: cs := by
  induction cs with
  | nil => simp [Text.occursIn]
  | cons c rest ih =>
      unfold Text.occursIn
      rw [Bool.or_eq_true, Text.isSome_dropStart?_iff, ih, List.infix_cons_iff]

/-- A source stands below the root, has the source suffix and is in no dependency directory. -/
theorem isSource_iff {path : String} : isSource settings path = true ↔
    rootPrefix settings <+: path.toList ∧ settings.convention.source.toList <:+ path.toList ∧
      ¬ settings.dependencyMarker.toList <:+: path.toList := by
  unfold isSource
  rw [Bool.and_eq_true, Bool.and_eq_true, Text.isSome_dropStart?_iff, SuffixConvention.hasSuffix_iff,
    and_assoc, ← occursIn_iff, Bool.not_eq_true', Bool.not_eq_true]
  rfl

/-- A source may change its ending for another one without slashes that has the suffix. -/
theorem isSource_exchange (hmarker : Settings.isMarker settings.dependencyMarker = true)
    {stem old new : String} (hold : '/' ∉ old.toList) (hnew : '/' ∉ new.toList)
    (hsuffix : settings.convention.source.toList <:+ (stem ++ new).toList)
    (h : isSource settings (stem ++ old) = true) : isSource settings (stem ++ new) = true := by
  obtain ⟨⟨rest, hroot⟩, -, houtside⟩ := isSource_iff.mp h
  rw [String.toList_append] at hroot houtside
  refine isSource_iff.mpr ⟨?_, hsuffix, ?_⟩
  · unfold rootPrefix at hroot
    rw [List.append_assoc] at hroot
    rw [String.toList_append]
    exact (Text.stem_of_separator hold hroot).trans (List.prefix_append _ _)
  · rw [String.toList_append]
    rintro ⟨before, after, hmark⟩
    unfold Settings.isMarker at hmarker
    rw [Bool.and_eq_true, SuffixConvention.hasSuffix_iff] at hmarker
    obtain ⟨⟨directory, hdirectory⟩, -⟩ := hmarker
    have hslash : before ++ directory ++ '/' :: after = stem.toList ++ new.toList := by
      rw [← hmark, ← hdirectory]
      simp
    have hstem := Text.stem_of_separator hnew hslash
    refine houtside (List.IsInfix.trans ⟨before, [], ?_⟩
      (hstem.isInfix.trans (List.prefix_append _ old.toList).isInfix))
    rw [← hdirectory]
    simp

/-! ### One more file -/

theorem filter_insert {p : String → Bool} {path : String} (text : String) (h : p path = false)
    (entries : List (String × String)) :
    ((Archive.insert path text entries).map Prod.fst).filter p = (entries.map Prod.fst).filter p := by
  induction entries with
  | nil => simp [Archive.insert, h]
  | cons entry rest ih =>
      obtain ⟨other, kept⟩ := entry
      unfold Archive.insert
      by_cases hlt : path < other
      · rw [if_pos hlt, List.map_cons, List.filter_cons_of_neg (by simp [h])]
      · rw [if_neg hlt]
        by_cases heq : path = other
        · subst heq
          rw [if_pos rfl, List.map_cons, List.map_cons]
        · rw [if_neg heq, List.map_cons, List.map_cons, List.filter_cons, List.filter_cons, ih]

/-- A file that is no source makes no difference to the sources. -/
theorem SameSources.addFile (h : SameSources settings archive output) (htidy : archive.Tidy)
    {path : String} (hother : isSource settings (normalForm path) = false) (text : String) :
    SameSources settings archive (output.addFile path text) := by
  refine ⟨(filter_insert text hother output.files).trans h.paths, ?_⟩
  intro source hsource
  obtain ⟨hmem, hissource⟩ := mem_sources.mp hsource
  have hne : normalForm source ≠ normalForm path := by
    rw [Archive.normalForm_of_normal (htidy source hmem)]
    rintro rfl
    rw [hother] at hissource
    cases hissource
  rw [Archive.findFile_addFile, if_neg hne, h.texts source hsource]

/-! ### Batches -/

section Batch

variable {env : Environment} (hspares : Spares env.settings) (htidy : env.archive.Tidy)
  (compiler : Compiler σ)

include hspares htidy

theorem SameSources.compileOne {progress : Progress σ} {source : String}
    (h : SameSources env.settings env.archive progress.output)
    (hsource : source ∈ sources env.settings env.archive) :
    SameSources env.settings env.archive (compileOne env compiler progress source).output := by
  obtain ⟨hmem, hissource⟩ := mem_sources.mp hsource
  unfold WholeArchive.compileOne
  rcases OnDemand.run env (compiler progress.host source) progress.cache
    with ⟨⟨e | text, after⟩, cache⟩
  · exact h
  · rcases htarget : env.settings.convention.compiledCounterpart source with _ | target
    · exact h
    · exact h.addFile htidy (hspares source target (htidy source hmem) hissource htarget) text

theorem SameSources.foldl (batch : List String) :
    ∀ {progress : Progress σ}, (∀ source ∈ batch, source ∈ sources env.settings env.archive) →
      SameSources env.settings env.archive progress.output →
      SameSources env.settings env.archive
        (batch.foldl (WholeArchive.compileOne env compiler) progress).output := by
  induction batch with
  | nil => intro progress _ h; exact h
  | cons source rest ih =>
      intro progress hall h
      exact ih (fun other hother => hall other (List.mem_cons_of_mem _ hother))
        (h.compileOne hspares htidy compiler (hall source List.mem_cons_self))

end Batch

theorem Spares.keepsSources (h : Spares settings) : KeepsSources settings := by
  rintro σ env compiler host output rfl htidy hok
  have hstart : SameSources env.settings env.archive
      ({ output := env.archive, host := host } : Progress σ).output := ⟨rfl, fun _ _ => rfl⟩
  have hbatch := SameSources.foldl h htidy compiler _ (fun _ hsource => hsource) hstart
  unfold compile at hok
  simp only at hok
  split at hok
  · cases hok
  · obtain rfl := Except.ok.inj hok
    exact hbatch

/-! ### A source that is compiled onto a source -/

/-- A compiler that gives the same text for every source. -/
def constant (text : String) : Compiler Unit := fun host _ => .finish host (.ok text)

/-- An archive of one source, and nothing else. -/
def single (settings : Settings) (source : String) : Environment :=
  { settings := settings, archive := Archive.empty.addFile source "" }

section Single

variable {source target : String} (hnormal : Normal source.toList)
  (hsource : isSource settings source = true)

include hnormal hsource

theorem sources_single : sources settings (single settings source).archive = [source] := by
  have hpaths : (single settings source).archive.paths = [normalForm source] := rfl
  unfold sources
  rw [hpaths, Archive.normalForm_of_normal hnormal, List.filter_cons_of_pos hsource, List.filter_nil]

theorem compile_single (htarget : settings.convention.compiledCounterpart source = some target)
    (text : String) :
    (compile (single settings source) (constant text) ()).1
      = .ok ((single settings source).archive.addFile target text) := by
  have hsources : sources (single settings source).settings (single settings source).archive
      = [source] := sources_single hnormal hsource
  have hname : (single settings source).settings.convention.compiledCounterpart source
      = some target := htarget
  unfold compile
  simp only [hsources, List.foldl_cons, List.foldl_nil]
  unfold compileOne constant OnDemand.run
  simp only [hname]
  rfl

end Single

/-- **The sources come out of every batch as they went in exactly if none is compiled onto
another or itself.** -/
theorem keepsSources_iff : KeepsSources settings ↔ Spares settings := by
  refine ⟨?_, Spares.keepsSources⟩
  intro h source target hnormal hsource htarget
  by_contra hother
  rw [Bool.not_eq_false] at hother
  have htidy : (single settings source).archive.Tidy := by
    refine Archive.Tidy.addFile ?_ source ""
    intro path hpath
    cases hpath
  obtain ⟨hpaths, htexts⟩ := h Unit (single settings source) (constant "x") () _ rfl htidy
    (compile_single hnormal hsource htarget "x")
  rw [sources_single hnormal hsource] at hpaths htexts
  have hadded : normalForm target ∈ sources settings
      ((single settings source).archive.addFile target "x") := by
    refine mem_sources.mpr ⟨List.mem_map.mpr ⟨(normalForm target, "x"), ?_, rfl⟩, hother⟩
    have hfound := Archive.findFile_addFile (single settings source).archive target "x" target
    rw [if_pos rfl] at hfound
    exact Archive.mem_files_iff.mpr hfound
  -- Then the target is the source itself, and its text is another.
  rw [hpaths, List.mem_singleton] at hadded
  have htext := htexts source (List.mem_singleton.mpr rfl)
  have hold := Archive.findFile_addFile Archive.empty source "" source
  rw [if_pos rfl] at hold
  rw [Archive.findFile_addFile, hadded, Archive.normalForm_of_normal hnormal, if_pos rfl] at htext
  exact absurd (Option.some.inj (htext.trans hold)) (by decide)

/-- Where the suffixes are apart, what a source is compiled to is named like no source. -/
theorem spares_of_apart (hendings : settings.convention.Endings) (h : settings.convention.Apart) :
    Spares settings := by
  intro source target hnormal _ htarget
  have htargetNormal := SuffixConvention.normal_of_sourceCounterpart hendings
    (SuffixConvention.counterparts.mpr htarget) hnormal
  rw [Archive.normalForm_of_normal htargetNormal, ← Bool.not_eq_true]
  intro hother
  unfold isSource at hother
  simp only [Bool.and_eq_true] at hother
  exact h.not_both (SuffixConvention.suffixes_of_compiledCounterpart htarget).2
    (SuffixConvention.hasSuffix_iff.mp hother.1.2)

/-! ### Settings that pass the checks -/

section Apart

variable (hmarker : Settings.isMarker settings.dependencyMarker = true)
  (hendings : settings.convention.Endings) (h : Spares settings) {stem : String}
  (hnormal : Normal (stem ++ settings.convention.source).toList)
  (hsource : isSource settings (stem ++ settings.convention.source) = true)

include hmarker hendings h hnormal hsource

theorem Spares.source_not_suffix :
    ¬ settings.convention.source.toList <:+ settings.convention.compiled.toList := by
  intro hsuffix
  have htarget : settings.convention.compiledCounterpart (stem ++ settings.convention.source)
      = some (stem ++ settings.convention.compiled) :=
    SuffixConvention.exchange_eq_some_iff.mpr ⟨stem, rfl, rfl⟩
  have htargetNormal := SuffixConvention.normal_of_sourceCounterpart hendings
    (SuffixConvention.counterparts.mpr htarget) hnormal
  have hother : isSource settings (stem ++ settings.convention.compiled) = true := by
    refine isSource_exchange hmarker hendings.source.flat hendings.compiled.flat ?_ hsource
    rw [String.toList_append]
    exact hsuffix.trans (List.suffix_append _ _)
  have hspared := h _ _ hnormal hsource htarget
  rw [Archive.normalForm_of_normal htargetNormal, hother] at hspared
  cases hspared

/-- With the beginning of its suffix twice, the name of a source is that of another source, which
is compiled onto it. -/
theorem Spares.compiled_not_suffix :
    ¬ settings.convention.compiled.toList <:+ settings.convention.source.toList := by
  rintro ⟨beginning, hbeginning⟩
  obtain ⟨twice, htwice⟩ : ∃ twice, twice = String.ofList beginning ++ settings.convention.source :=
    ⟨_, rfl⟩
  have hsplit : settings.convention.source
      = String.ofList beginning ++ settings.convention.compiled := by
    rw [← String.toList_inj, String.toList_append, String.toList_ofList, hbeginning]
  have hsubset : ∀ c ∈ twice.toList, c ∈ settings.convention.source.toList := by
    intro c hc
    rw [htwice, String.toList_append, String.toList_ofList] at hc
    rcases List.mem_append.mp hc with hc | hc
    · exact hbeginning ▸ List.mem_append_left _ hc
    · exact hc
  have hsuffix : settings.convention.source.toList <:+ twice.toList := by
    rw [htwice, String.toList_append]
    exact List.suffix_append _ _
  have hother : isSource settings (stem ++ twice) = true := by
    refine isSource_exchange hmarker hendings.source.flat
      (fun hmem => hendings.source.flat (hsubset _ hmem)) ?_ hsource
    rw [String.toList_append]
    exact hsuffix.trans (List.suffix_append _ _)
  have hotherNormal : Normal (stem ++ twice).toList := by
    rw [String.toList_append] at hnormal ⊢
    refine hnormal.exchange ?_ (fun hmem => hendings.source.flat (hsubset _ hmem))
      (fun hmem => hendings.sourcePlain.backslash (hsubset _ hmem))
    intro hnil
    rw [hnil] at hsuffix
    exact hendings.source.nonempty (List.suffix_nil.mp hsuffix)
  have htarget : settings.convention.compiledCounterpart (stem ++ twice)
      = some (stem ++ settings.convention.source) := by
    refine SuffixConvention.exchange_eq_some_iff.mpr ⟨stem ++ String.ofList beginning, ?_, ?_⟩
    · rw [htwice, String.append_assoc]
    · rw [String.append_assoc, ← hsplit]
  have hspared := h _ _ hotherNormal hother htarget
  rw [Archive.normalForm_of_normal hnormal, hsource] at hspared
  cases hspared

end Apart

theorem isMarker_of_validate (h : settings.validate = .ok ()) :
    Settings.isMarker settings.dependencyMarker = true := by
  unfold Settings.validate at h
  by_contra hmarker
  rw [Bool.not_eq_true] at hmarker
  simp only [hmarker, Bool.not_false, if_true] at h
  split at h
  · cases h
  · split at h <;> cases h

/-- **In settings that pass the checks, with endings for suffixes, every batch keeps the sources
exactly if neither suffix is the end of the other**, or if no path can be that of a source. -/
theorem keepsSources_iff_apart (hvalid : settings.validate = .ok ())
    (hendings : settings.convention.Endings) :
    KeepsSources settings ↔ settings.convention.Apart ∨
      ∀ path : String, Normal path.toList → isSource settings path = false := by
  rw [keepsSources_iff]
  constructor
  · intro h
    by_cases hnone : ∀ path : String, Normal path.toList → isSource settings path = false
    · exact Or.inr hnone
    · obtain ⟨path, hpath⟩ := not_forall.mp hnone
      obtain ⟨hnormal, hsource⟩ := Classical.not_imp.mp hpath
      rw [Bool.not_eq_false] at hsource
      obtain ⟨target, htarget⟩ := compiledCounterpart_of_isSource hsource
      obtain ⟨stem, rfl, -⟩ := SuffixConvention.exchange_eq_some_iff.mp htarget
      have hmarker := isMarker_of_validate hvalid
      exact Or.inl ⟨h.source_not_suffix hmarker hendings hnormal hsource,
        h.compiled_not_suffix hmarker hendings hnormal hsource⟩
  · rintro (hapart | hnone)
    · exact spares_of_apart hendings hapart
    · intro source target hnormal hsource
      rw [hnone source hnormal] at hsource
      cases hsource

end ModuleLoader.WholeArchive
