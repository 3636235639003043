/-
Spellings of one path.

An archive finds a file under every spelling of its path, and the file is known by the spelling
that it was asked for by.  So two spellings make two modules (`find_spelling`).  They speak of
the same neighbours as long as they differ by no more than dots at the beginning, which
following a reference takes off (`resolve_of_normalForm_eq`); a backslash or a slash at the end
moves the directory that references start from.

References bring no new spellings in.  What a reference to a module leads to is a path in normal
form, if no backslashes come from the reference or from the module it stands in
(`normal_resolve`).
-/
import ModuleLoader.Proofs.Search.Identity

namespace ModuleLoader

open Text

namespace Path

/-! ### Dots at the beginning -/

theorem normalizeChars_dot {path : List Char} (h : isRooted path = false) :
    normalizeChars ('.' :: '/' :: path) = normalizeChars path := by
  have hsplit : split '/' ('.' :: '/' :: path) = ['.'] :: split '/' path :=
    split_append_sep '/' ['.'] path
  have hfollow : follow ('.' :: '/' :: path) = follow path := by
    unfold follow
    rw [hsplit, h]
    rfl
  have hdirectory : namesDirectory ('.' :: '/' :: path) = namesDirectory path := by
    unfold namesDirectory
    rw [hsplit, List.getLast?_cons_of_ne_nil (split_ne_nil '/' path)]
  rw [normalizeChars_eq, normalizeChars_eq, hfollow, hdirectory, h]
  rfl

theorem directory_dot (path : List Char) :
    directory ('.' :: '/' :: path) = '.' :: '/' :: directory path := by
  rcases directory_cases path with ⟨hflat, hdir⟩ | ⟨before, last, rfl, hlast, hdir⟩
  · have hcut : cutLast? '/' ('.' :: '/' :: path) = some (['.'], path) :=
      cutLast?_eq_some_iff.mpr ⟨rfl, hflat⟩
    rw [hdir]
    unfold directory
    rw [hcut]
    rfl
  · have hcut : cutLast? '/' ('.' :: '/' :: (before ++ '/' :: last))
        = some ('.' :: '/' :: before, last) := cutLast?_eq_some_iff.mpr ⟨rfl, hlast⟩
    rw [hdir]
    unfold directory
    rw [hcut]
    rfl

theorem isRooted_of_dropDots {path : List Char} (h : isRooted (Archive.dropDots path) = false) :
    isRooted path = false := by
  rcases path with _ | ⟨c, rest⟩
  · rfl
  · by_cases hc : c = '/'
    · rw [hc, Archive.dropDots_eq_self (by simp)] at h
      cases h
    · simp [isRooted, hc]

/-- References start from the same directory with dots at the beginning and without. -/
theorem normalizeChars_directory_dropDots {path reference : List Char}
    (hpath : isRooted (Archive.dropDots path) = false) (hreference : isRooted reference = false) :
    normalizeChars (directory path ++ reference)
      = normalizeChars (directory (Archive.dropDots path) ++ reference) := by
  fun_induction Archive.dropDots path with
  | case1 rest ih =>
      have hwhole : isRooted (directory rest ++ reference) = false := by
        rw [isRooted_directory_append rest hreference, isRooted_of_dropDots hpath]
      rw [directory_dot, List.cons_append, List.cons_append, normalizeChars_dot hwhole]
      exact ih hpath
  | case2 path => rfl

end Path

namespace Archive

variable {p q : String}

/-- Files are found under every spelling of their paths. -/
theorem findFile_of_normalForm_eq (archive : Archive) (h : normalForm p = normalForm q) :
    archive.findFile p = archive.findFile q := by
  unfold findFile
  rw [h]

/-- The path differs from its normal form in no more than dots at the beginning. -/
structure Dotted (path : String) : Prop where
  backslash : '\\' ∉ path.toList
  slash : ∀ front, path.toList ≠ front ++ ['/']
  unrooted : Path.isRooted (normalForm path).toList = false
  logical : Reference.isAbsolute path = false

theorem Dotted.normalForm_eq (h : Dotted p) : (normalForm p).toList = dropDots p.toList := by
  unfold normalForm
  rw [String.toList_ofList, toSlashes_of_plain h.backslash]
  refine dropSlashes_eq_self fun front heq => ?_
  obtain ⟨dots, hdots⟩ := dropDots_suffix p.toList
  rw [heq, ← List.append_assoc] at hdots
  exact h.slash _ hdots.symm

/-- **Spellings that differ in dots at the beginning speak of the same neighbours.** -/
theorem resolve_of_normalForm_eq (hp : Dotted p) (hq : Dotted q)
    (hform : normalForm p = normalForm q) {specifier : String}
    (hrel : Reference.isRelative specifier = true) :
    Reference.resolve p specifier = Reference.resolve q specifier := by
  have hspecifier := Reference.isRooted_of_isRelative hrel
  have hdots : dropDots p.toList = dropDots q.toList := by
    rw [← hp.normalForm_eq, ← hq.normalForm_eq, hform]
  have hp' := hp.unrooted
  have hq' := hq.unrooted
  rw [hp.normalForm_eq] at hp'
  rw [hq.normalForm_eq] at hq'
  rw [Reference.resolve_of_relative hp.logical hrel, Reference.resolve_of_relative hq.logical hrel,
    Path.normalizeChars_directory_dropDots hp' hspecifier,
    Path.normalizeChars_directory_dropDots hq' hspecifier, hdots]

end Archive

namespace Search

open Archive (Normal)

/-! ### What a spelling finds -/

/-- A file is known by the spelling of its path that it was asked for by, whatever has been
found before. -/
theorem find_spelling {env : Environment} {cache : RawCache} (hg : Grounded env cache)
    {name text : String} (hname : Reference.isAbsolute name = false)
    (hfile : env.archive.findFile name = some text) :
    ∃ shelf, (find env cache name none).1 = .ok (some ⟨⟨name, text⟩, shelf⟩) := by
  have hsearch : search env name = .ok (some ⟨name, text⟩) := by
    unfold search
    rw [hfile]
  rw [find_eq_findAlone]
  rcases hheld : cache.get? name with _ | artifact
  · by_cases hrel : Reference.isRelative name = true
    · rw [findAlone_of_relative hheld hrel, hsearch]
      exact ⟨none, rfl⟩
    · rw [findAlone_of_fresh hheld (Bool.eq_false_iff.mpr hrel), hsearch, keeping_some,
        RawCache.remember_of_none hheld]
      exact ⟨some (.raw name), rfl⟩
  · have hkept := (hg.get? hheld).search_eq hname
    rw [hsearch] at hkept
    cases hkept
    rw [findAlone_of_held hheld]
    exact ⟨some (.raw name), rfl⟩

/-! ### What references lead to -/

theorem normal_resolve {origin specifier target : String}
    (horigin : Reference.isAbsolute origin = false) (hrel : Reference.isRelative specifier = true)
    (hresolve : Reference.resolve origin specifier = .ok target)
    (hbackslash : '\\' ∉ origin.toList) (hbackslash' : '\\' ∉ specifier.toList)
    {ending : List Char} (hending : Path.Ending ending) (hsuffix : ending <:+ specifier.toList) :
    Normal target.toList := by
  have hends := (Reference.suffix_resolve_iff horigin hrel hresolve hending).mpr hsuffix
  rw [Reference.resolve_of_relative horigin hrel] at hresolve
  obtain rfl := Except.ok.inj hresolve
  rw [String.toList_ofList] at hends ⊢
  refine ⟨?_, normalizeChars_ne_dot _, ?_⟩
  · intro hmem
    rcases List.mem_append.mp (Path.mem_normalizeChars hmem (by decide)) with hmem | hmem
    · exact hbackslash ((Path.directory_start _).subset hmem)
    · exact hbackslash' hmem
  · intro front heq
    rw [heq] at hends
    exact hending.not_slash front hends

/-- A module that a specifier means is known by a path in normal form or by the specifier. -/
theorem Denotes.normal {specifier name : String} {base : Option String} {context : Option Artifact}
    (h : Denotes specifier base context name) (hname : Reference.isAbsolute name = false)
    (hspecifier : '\\' ∉ specifier.toList) (hbase : ∀ origin ∈ base, '\\' ∉ origin.toList)
    (hcontext : ∀ running ∈ context, Reference.isAbsolute running.uri = false →
      '\\' ∉ running.uri.toList)
    {ending : List Char} (hending : Path.Ending ending) (hsuffix : ending <:+ specifier.toList) :
    name = specifier ∨ Normal name.toList := by
  rcases h.of_logical hname with heq | ⟨origin, horigin, hlogical, hrel, hresolve⟩
  · exact Or.inl heq
  · refine Or.inr (normal_resolve hlogical hrel hresolve ?_ hspecifier hending hsuffix)
    rcases horigin with heq | ⟨running, hrunning, rfl⟩
    · exact hbase origin heq
    · exact hcontext running hrunning hlogical

end Search

end ModuleLoader
