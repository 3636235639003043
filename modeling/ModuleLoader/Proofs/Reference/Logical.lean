/-
References that leave the logical paths.

Whether an identity is a URL is told from its text alone, by a scheme before the first colon.
A normalized path has such a text if its first segment has, and which segment that is shows only
when the dot segments have been followed: it is the topmost name of the place that the path leads
to, if that place is not above the start (`isAbsoluteChars_normalizeChars`).

So a relative reference makes a URL of a logical path exactly if it leads, from the directory of
the base, back to the start and down along a name with a scheme.  A base in normal form has no
such name itself, and then it is the reference that brings one in.
-/
import ModuleLoader.Proofs.Path.Place
import ModuleLoader.Proofs.Reference.Chain
import ModuleLoader.Proofs.Url.Scheme
import ModuleLoader.Search

namespace ModuleLoader

open Text

namespace Reference

/-! ### Schemes at the beginning -/

theorem isAbsoluteChars_iff {cs : List Char} :
    isAbsoluteChars cs = true ↔ ∃ scheme rest, cs = scheme ++ ':' :: rest ∧ Url.IsScheme scheme := by
  unfold isAbsoluteChars
  constructor
  · intro h
    rcases hcut : cut? ':' cs with _ | ⟨_ | ⟨c, name⟩, rest⟩
    · rw [hcut] at h
      cases h
    · rw [hcut] at h
      cases h
    · rw [hcut] at h
      simp only [Bool.and_eq_true] at h
      exact ⟨c :: name, rest, (cut?_eq_some_iff.mp hcut).1, h⟩
  · rintro ⟨_ | ⟨c, name⟩, rest, rfl, hscheme⟩
    · exact hscheme.elim
    · rw [cut?_eq_some_iff.mpr ⟨rfl, Url.colon_not_mem_of_isScheme hscheme⟩]
      simp only [hscheme.1, hscheme.2, Bool.and_self]

theorem slash_not_mem_of_isScheme {scheme : List Char} (h : Url.IsScheme scheme) : '/' ∉ scheme := by
  rcases scheme with _ | ⟨c, name⟩
  · exact List.not_mem_nil
  · intro hmem
    rcases List.mem_cons.mp hmem with rfl | hmem
    · exact absurd h.1 (by decide)
    · exact absurd (List.all_eq_true.mp h.2 _ hmem) (by decide)

/-- A scheme lies within the first segment. -/
theorem isAbsoluteChars_slash (first rest : List Char) :
    isAbsoluteChars (first ++ '/' :: rest) = isAbsoluteChars first := by
  rw [Bool.eq_iff_iff, isAbsoluteChars_iff, isAbsoluteChars_iff]
  constructor
  · rintro ⟨scheme, after, heq, hscheme⟩
    rcases List.append_eq_append_iff.mp heq with ⟨more, rfl, hmore⟩ | ⟨more, rfl, hmore⟩
    · -- The slash would be within the scheme, or stand where the colon does.
      have hslash : '/' ∉ more := fun hmem =>
        slash_not_mem_of_isScheme hscheme (List.mem_append_right _ hmem)
      rcases more with _ | ⟨c, more⟩
      · exact absurd (List.cons.inj hmore).1 (by decide)
      · obtain ⟨rfl, -⟩ := List.cons.inj hmore
        exact absurd List.mem_cons_self hslash
    · rcases more with _ | ⟨c, more⟩
      · exact absurd (List.cons.inj hmore).1 (by decide)
      · obtain ⟨rfl, -⟩ := List.cons.inj hmore
        exact ⟨scheme, more, rfl, hscheme⟩
  · rintro ⟨scheme, after, rfl, hscheme⟩
    exact ⟨scheme, after ++ '/' :: rest, by simp, hscheme⟩

theorem isAbsoluteChars_of_not_alpha {c : Char} (h : c.isAlpha = false) (rest : List Char) :
    isAbsoluteChars (c :: rest) = false := by
  rw [← Bool.not_eq_true, isAbsoluteChars_iff]
  rintro ⟨_ | ⟨d, name⟩, after, heq, hscheme⟩
  · exact hscheme
  · obtain ⟨rfl, -⟩ := List.cons.inj heq
    rw [hscheme.1] at h
    cases h

/-- What begins several segments begins them alone. -/
theorem isAbsoluteChars_join (first : List Char) (rest : List (List Char)) (closing : Bool) :
    isAbsoluteChars (join '/' (first :: rest) ++ if closing = true then ['/'] else [])
      = isAbsoluteChars first := by
  rcases rest with _ | ⟨next, rest⟩
  · cases closing
    · simp [join]
    · exact isAbsoluteChars_slash first []
  · rw [join_cons_cons, List.append_assoc]
    exact isAbsoluteChars_slash first _

end Reference

namespace Path

/-! ### Places that are told by URLs -/

/-- The path to a place begins with a scheme: it does not climb above the start, and its topmost
name has one. -/
def Place.TakenForUrl (place : Place) : Prop :=
  place.up = 0 ∧ ∃ name ∈ place.names.getLast?, Reference.isAbsoluteChars name = true

/-- **A normalized path is taken for a URL if the topmost name of the place it leads to is.** -/
theorem isAbsoluteChars_normalizeChars (path : List Char) :
    Reference.isAbsoluteChars (normalizeChars path) = true ↔
      isRooted path = false ∧ (walk .here path).TakenForUrl := by
  by_cases hroot : isRooted path = true
  · rw [normalizeChars_eq, if_pos hroot, hroot]
    refine iff_of_false ?_ fun h => by cases h.1
    rw [Bool.not_eq_true]
    exact Reference.isAbsoluteChars_of_not_alpha (by decide) _
  · have hunrooted := Bool.eq_false_iff.mpr hroot
    rw [normalizeChars_eq, if_neg hroot, List.nil_append, walk_here, hunrooted]
    generalize walk .here path = place
    rcases place with ⟨up, names⟩
    unfold Place.TakenForUrl
    simp only [List.reverse_append, List.reverse_replicate, true_and]
    rcases up with _ | up
    · rcases List.eq_nil_or_concat names with rfl | ⟨inner, topmost, rfl⟩
      · simp [join, Reference.isAbsoluteChars, cut?]
      · simp [List.reverse_append, Reference.isAbsoluteChars_join]
    · have hdots : Reference.isAbsoluteChars ['.', '.'] = false := rfl
      simp [List.replicate_succ, Reference.isAbsoluteChars_join, hdots]

/-! ### Walking on -/

/-- A path behind a directory is walked from where the directory leads. -/
theorem walk_directory_append {base rest : List Char} (hbase : isRooted base = false)
    (hrest : isRooted rest = false) (start : Place) :
    walk start (directory base ++ rest) = walk (walk start (directory base)) rest := by
  have hskip : ∀ place : Place, place.enter false [] = place :=
    fun place => (Place.walks_enter false).skip place (Or.inl rfl)
  unfold walk
  rw [isRooted_directory_append base hrest, isRooted_directory, hbase, hrest,
    split_directory_append, split_directory, List.foldl_append, List.foldl_append]
  simp only [List.foldl_cons, List.foldl_nil, hskip, Bool.false_eq_true, if_false]

/-- Where a path leads from a place, told by where it leads from the start. -/
theorem walk_from {path : List Char} (h : isRooted path = false) (start : Place) :
    walk start path =
      ⟨start.up + ((walk .here path).up - start.names.length),
        (walk .here path).names ++ start.names.drop (walk .here path).up⟩ := by
  obtain ⟨climbs, names, hfollow, hnames, hroot⟩ := (settled_follow path).shape
  rw [walk_eq hfollow hnames hroot, walk_eq hfollow hnames hroot, h]
  simp [Place.here]

/-- The directory of a path in normal form is the place that the path leads to, or the one around
it if the path ends in a name. -/
theorem walk_directory_normal {base : List Char} (hbase : isRooted base = false)
    (hnormal : normalizeChars base = base) :
    walk .here (directory base) = if namesDirectory base = true then walk .here base
      else ⟨(walk .here base).up, (walk .here base).names.tail⟩ := by
  have hdirectory : isRooted (directory base) = false := (isRooted_directory base).trans hbase
  have hfollow := follow_directory_normalizeChars base
  rw [hnormal] at hfollow
  by_cases h : namesDirectory base = true
  · rw [if_pos h] at hfollow ⊢
    exact (walk_eq_iff (hdirectory.trans hbase.symm)).mpr hfollow .here
  · rw [if_neg h] at hfollow ⊢
    obtain ⟨front, last, -, hlast, hstack⟩ := follow_of_named (Bool.eq_false_iff.mpr h)
    obtain ⟨climbs, names, hshape, hnames, hroot⟩ := (settled_follow base).shape
    rcases names with _ | ⟨top, outer⟩
    · -- The path ends in a name, which is no climb.
      rw [hshape, List.nil_append] at hstack
      have hmem : last ∈ List.replicate climbs ['.', '.'] := by
        rw [hstack]
        exact List.mem_cons_self
      exact absurd (List.eq_of_mem_replicate hmem) hlast.notUp
    · have houter : follow (directory base) = outer ++ List.replicate climbs ['.', '.'] := by
        rw [hfollow, hshape]
        rfl
      have hrooted : isRooted (directory base) = true → climbs = 0 := by
        rw [hdirectory]
        exact nofun
      rw [walk_eq houter (fun s hs => hnames s (List.mem_cons_of_mem _ hs)) hrooted,
        walk_eq hshape hnames hroot, hdirectory, hbase]
      simp [Place.here]

/-- The topmost name of the directory that a path in normal form lies in is that of the path, and
both are as far above the start. -/
theorem walk_directory_topmost {base : List Char} (hbase : isRooted base = false)
    (hnormal : normalizeChars base = base) {name : Segment}
    (h : name ∈ (walk .here (directory base)).names.getLast?) :
    (walk .here (directory base)).up = (walk .here base).up ∧
      name ∈ (walk .here base).names.getLast? := by
  rw [walk_directory_normal hbase hnormal] at h ⊢
  by_cases hdirectory : namesDirectory base = true
  · rw [if_pos hdirectory] at h ⊢
    exact ⟨rfl, h⟩
  · rw [if_neg hdirectory] at h ⊢
    rw [List.getLast?_tail] at h
    refine ⟨rfl, ?_⟩
    split at h
    · cases h
    · exact h

/-- The directory of a path of names lies down along all of them but the last. -/
theorem walk_directory_names {names : List Segment} (hne : names ≠ [])
    (hnames : ∀ s ∈ names, Ordinary s) :
    walk .here (directory (join '/' names)) = ⟨0, names.dropLast.reverse⟩ := by
  have hroot : isRooted (directory (join '/' names)) = false :=
    (isRooted_directory _).trans (isRooted_names hne hnames)
  have hfront : ∀ s ∈ names.dropLast, Ordinary s := fun s hs => hnames s (List.dropLast_subset _ hs)
  have hfollow : follow (directory (join '/' names))
      = names.dropLast.reverse ++ List.replicate 0 ['.', '.'] := by
    rw [follow_directory, split_names hne hnames, foldl_ordinary hfront]
    rfl
  rw [walk_eq hfollow (fun s hs => hfront s (List.mem_reverse.mp hs)) (fun _ => rfl), hroot]
  simp [Place.here]

end Path

namespace Reference

/-! ### References that lead to URLs -/

/-- **A relative reference makes a URL of a logical path exactly if it leads from the directory of
the path back to the start and down along a name with a scheme.** -/
theorem isAbsolute_resolve_iff {base reference target : String} (hbase : isAbsolute base = false)
    (hrel : isRelative reference = true) (h : resolve base reference = .ok target) :
    isAbsolute target = true ↔ Path.isRooted base.toList = false ∧
      (Path.walk (Path.walk .here (Path.directory base.toList)) reference.toList).TakenForUrl := by
  have hunrooted := isRooted_of_isRelative hrel
  obtain rfl := Except.ok.inj ((resolve_of_relative hbase hrel).symm.trans h)
  unfold isAbsolute
  rw [String.toList_ofList, Path.isAbsoluteChars_normalizeChars,
    Path.isRooted_directory_append _ hunrooted]
  refine and_congr_right fun hroot => ?_
  rw [Path.walk_directory_append hroot hunrooted]

/-- The last element of two lists together is the last one of either. -/
theorem mem_getLast?_append_drop {α : Type} {xs ys : List α} {n : Nat} {x : α}
    (h : x ∈ (xs ++ ys.drop n).getLast?) : x ∈ xs.getLast? ∨ x ∈ ys.getLast? := by
  rcases List.eq_nil_or_concat (ys.drop n) with hnil | ⟨front, last, hdrop⟩
  · rw [hnil, List.append_nil] at h
    exact Or.inl h
  · rw [List.concat_eq_append] at hdrop
    rw [hdrop, ← List.append_assoc, List.getLast?_concat] at h
    refine Or.inr ?_
    rw [← List.take_append_drop n ys, hdrop, ← List.append_assoc, List.getLast?_concat]
    exact h

/-- From a logical path in normal form no reference leads to a URL but one that brings in a name
with a scheme. -/
theorem isAbsolute_resolve_of_normal {base reference target : String}
    (hbase : isAbsolute base = false) (hnormal : Path.normalize base = base)
    (hrel : isRelative reference = true) (h : resolve base reference = .ok target)
    (hnames : ∀ name ∈ (Path.walk .here reference.toList).names.getLast?,
      isAbsoluteChars name = false) : isAbsolute target = false := by
  rw [← Bool.not_eq_true, isAbsolute_resolve_iff hbase hrel h,
    Path.walk_from (isRooted_of_isRelative hrel)]
  rintro ⟨hroot, hup, name, hname, hscheme⟩
  have hnormalChars : Path.normalizeChars base.toList = base.toList := by
    rw [← String.toList_ofList (l := Path.normalizeChars base.toList)]
    exact congrArg String.toList hnormal
  rcases mem_getLast?_append_drop hname with hname | hname
  · rw [hnames name hname] at hscheme
    cases hscheme
  · -- The name is the topmost one of the base, which would be taken for a URL itself.
    obtain ⟨hlevel, htopmost⟩ := Path.walk_directory_topmost hroot hnormalChars hname
    have htaken : (Path.walk .here base.toList).TakenForUrl :=
      ⟨hlevel.symm.trans (Nat.eq_zero_of_add_eq_zero_right hup), name, htopmost, hscheme⟩
    have habs := (Path.isAbsoluteChars_normalizeChars base.toList).mpr ⟨hroot, htaken⟩
    rw [hnormalChars] at habs
    unfold isAbsolute at hbase
    rw [habs] at hbase
    cases hbase

/-- As many directories below the start as one likes, there are files with logical paths in normal
form. -/
theorem exists_below (depth : Nat) :
    ∃ base : String, isAbsolute base = false ∧ Path.normalize base = base ∧
      Path.isRooted base.toList = false ∧
      Path.walk .here (Path.directory base.toList) = ⟨0, List.replicate depth ['d']⟩ := by
  have hne : List.replicate (depth + 1) ['d'] ≠ [] := by simp
  have hnames : ∀ s ∈ List.replicate (depth + 1) ['d'], Path.Ordinary s := by
    intro s hs
    rw [List.eq_of_mem_replicate hs]
    exact ⟨by decide, by decide, by decide, by decide⟩
  have hcolon : ':' ∉ join '/' (List.replicate (depth + 1) ['d']) := by
    intro hmem
    rcases mem_join hmem with heq | ⟨s, hs, hmem⟩
    · exact absurd heq (by decide)
    · rw [List.eq_of_mem_replicate hs] at hmem
      exact absurd hmem (by decide)
  refine ⟨String.ofList (join '/' (List.replicate (depth + 1) ['d'])), ?_, ?_, ?_, ?_⟩
  · exact isAbsolute_of_not_mem (by rwa [String.toList_ofList])
  · unfold Path.normalize
    rw [String.toList_ofList, Path.normalizeChars_names hne hnames]
  · rw [String.toList_ofList]
    exact Path.isRooted_names hne hnames
  · rw [String.toList_ofList, Path.walk_directory_names hne hnames]
    simp

/-- **The references that stay among the logical paths**: for one base, those that do not lead
back to the start and down along a name with a scheme; for all bases in normal form, those that
bring in no such name as the topmost one. -/
theorem resolve_stays_logical_iff {reference : String} (hrel : isRelative reference = true) :
    (∀ base : String, isAbsolute base = false →
      ∃ target, resolve base reference = .ok target ∧
        (isAbsolute target = true ↔ Path.isRooted base.toList = false ∧
          (Path.walk (Path.walk .here (Path.directory base.toList)) reference.toList).TakenForUrl)) ∧
    ((∀ base : String, isAbsolute base = false → Path.normalize base = base →
        ∃ target, resolve base reference = .ok target ∧ isAbsolute target = false) ↔
      ∀ name ∈ (Path.walk .here reference.toList).names.getLast?, isAbsoluteChars name = false) := by
  refine ⟨?_, ?_, ?_⟩
  · intro base hbase
    have hresolve := resolve_of_relative hbase hrel
    exact ⟨_, hresolve, isAbsolute_resolve_iff hbase hrel hresolve⟩
  · -- The reference comes back to the start from a file as many directories deep as it climbs.
    intro hall name hname
    by_contra hscheme
    obtain ⟨base, hbase, hnormal, hroot, hdirectory⟩ :=
      exists_below (Path.walk .here reference.toList).up
    obtain ⟨target, hresolve, hlogical⟩ := hall base hbase hnormal
    have habs : isAbsolute target = true := by
      rw [isAbsolute_resolve_iff hbase hrel hresolve, hdirectory,
        Path.walk_from (isRooted_of_isRelative hrel)]
      refine ⟨hroot, by simp, name, ?_, by simpa using hscheme⟩
      simpa using hname
    rw [habs] at hlogical
    cases hlogical
  · intro hnames base hbase hnormal
    have hresolve := resolve_of_relative hbase hrel
    exact ⟨_, hresolve, isAbsolute_resolve_of_normal hbase hnormal hrel hresolve hnames⟩

/-- A name with a colon below another name is no scheme, but a base that is not in normal form may
hide one. -/
theorem resolve_stays_logical_iff_hidden :
    isRelative "../../c/x:y.js" = true ∧ isAbsolute "lib/a/b.js" = false ∧
      Path.normalize "lib/a/b.js" = "lib/a/b.js" ∧
      (∃ target, resolve "lib/a/b.js" "../../c/x:y.js" = .ok target ∧ isAbsolute target = false) ∧
      isRelative "./b.js" = true ∧ isAbsolute "./x:/a.js" = false ∧
      ∃ target, resolve "./x:/a.js" "./b.js" = .ok target ∧ isAbsolute target = true := by
  have hdeep : isRelative "../../c/x:y.js" = true := by decide
  have hflat : isRelative "./b.js" = true := by decide
  have hbase : isAbsolute "lib/a/b.js" = false := by decide
  have hhidden : isAbsolute "./x:/a.js" = false := by decide
  have hnormal : Path.normalize "lib/a/b.js" = "lib/a/b.js" := by rfl
  refine ⟨hdeep, hbase, hnormal, ?_, hflat, hhidden, ?_⟩
  · refine (resolve_stays_logical_iff hdeep).2.mpr ?_ _ hbase hnormal
    intro name hname
    obtain rfl : ['c'] = name := Option.some.inj hname
    rfl
  · obtain ⟨target, hresolve, hiff⟩ := (resolve_stays_logical_iff hflat).1 _ hhidden
    exact ⟨target, hresolve, hiff.mpr ⟨rfl, rfl, _, rfl, rfl⟩⟩

/-- An archive with one module, beside a packaged resource. -/
def beside : Environment :=
  { archive := .ofFiles [("lib/a.js", "a")],
    resources := ⟨[.memory [("x.js", "packaged".toUTF8)]]⟩ }

/-- A relative reference that leads from a logical path to a URL, and so from a module of the
archive to a packaged one. -/
theorem resolve_leaves_logical :
    isAbsolute "lib/a.js" = false ∧ isRelative "../classpath:/x.js" = true ∧
      resolve "lib/a.js" "../classpath:/x.js" = .ok "classpath:/x.js" ∧
      isAbsolute "classpath:/x.js" = true ∧
      (Search.findIn beside {} "../classpath:/x.js" none (some ⟨"lib/a.js", "a"⟩)).1
        = .ok (some ⟨⟨"classpath:/x.js", "packaged"⟩, some (.raw "classpath:/x.js")⟩) := by
  refine ⟨by decide, by decide, ?_, by decide, ?_⟩ <;> rfl

end Reference

end ModuleLoader
