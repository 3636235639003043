/-
What an archive holds.

The paths of an archive are in normal form: no backslashes, no `./` at the beginning and no slash
at the end.  Normal form changes nothing of such a path, so a file that is added is found
under every spelling of its path, and every other file is found as before.

A name in normal form stays in normal form when its suffix is exchanged for another one without
slashes.  So the name of what a source is compiled to is a path as it stands.
-/
import Mathlib.Data.List.DropRight
import ModuleLoader.Archive
import ModuleLoader.Suffix

namespace ModuleLoader

/-- What is looked up in a list of pairs stands in it. -/
theorem mem_of_lookup {α β : Type} [BEq α] [LawfulBEq α] {xs : List (α × β)} {a : α} {b : β}
    (h : xs.lookup a = some b) : (a, b) ∈ xs := by
  obtain ⟨before, after, rfl, -⟩ := List.lookup_eq_some_iff.mp h
  exact List.mem_append_right _ List.mem_cons_self

namespace Archive

/-! ### Normal form -/

/-- A path that is its own normal form. -/
structure Normal (path : List Char) : Prop where
  backslash : '\\' ∉ path
  dots : ∀ rest, path ≠ '.' :: '/' :: rest
  slash : ∀ front, path ≠ front ++ ['/']

theorem toSlashes_of_plain {path : List Char} (h : '\\' ∉ path) : toSlashes path = path := by
  refine (List.map_congr_left ?_).trans (List.map_id' path)
  intro c hc
  have hne : c ≠ '\\' := by
    intro heq
    rw [heq] at hc
    exact h hc
  exact if_neg hne

theorem dropDots_eq_self {path : List Char} (h : ∀ rest, path ≠ '.' :: '/' :: rest) :
    dropDots path = path := by
  unfold dropDots
  split
  · next rest => exact absurd rfl (h rest)
  · rfl

theorem dropSlashes_eq_rdropWhile (path : List Char) :
    dropSlashes path = path.rdropWhile (· = '/') := rfl

theorem dropSlashes_eq_self {path : List Char} (h : ∀ front, path ≠ front ++ ['/']) :
    dropSlashes path = path := by
  rw [dropSlashes_eq_rdropWhile, List.rdropWhile_eq_self_iff]
  intro hne hlast
  have hlast : path.getLast hne = '/' := of_decide_eq_true hlast
  refine h path.dropLast ?_
  rw [← hlast, List.dropLast_append_getLast hne]

theorem backslash_not_mem_toSlashes (path : List Char) : '\\' ∉ toSlashes path := by
  intro hmem
  obtain ⟨c, -, hc⟩ := List.mem_map.mp hmem
  by_cases h : c = '\\'
  · rw [if_pos h] at hc
    exact absurd hc (by decide)
  · rw [if_neg h] at hc
    exact h hc

theorem dropDots_suffix (path : List Char) : dropDots path <:+ path := by
  fun_induction dropDots path with
  | case1 rest ih => exact ih.trans ((List.suffix_cons '/' rest).trans (List.suffix_cons '.' _))
  | case2 path => exact List.suffix_refl path

theorem dropDots_ne (path rest : List Char) : dropDots path ≠ '.' :: '/' :: rest := by
  fun_induction dropDots path with
  | case1 path ih => exact ih
  | case2 path hne => exact fun heq => hne rest heq

theorem normal_normalForm (path : String) : Normal (normalForm path).toList := by
  unfold normalForm
  rw [String.toList_ofList, dropSlashes_eq_rdropWhile]
  generalize hdots : dropDots (toSlashes path.toList) = inner
  have hprefix : inner.rdropWhile (· = '/') <+: inner := List.rdropWhile_prefix _ inner
  refine ⟨?_, ?_, ?_⟩
  · intro hmem
    refine backslash_not_mem_toSlashes path.toList ?_
    exact (dropDots_suffix _).subset (hdots ▸ hprefix.subset hmem)
  · intro rest heq
    obtain ⟨slashes, hslashes⟩ := hprefix
    rw [heq] at hslashes
    exact dropDots_ne _ _ (hdots.trans hslashes.symm)
  · intro front heq
    have hne : inner.rdropWhile (· = '/') ≠ [] := by
      rw [heq]
      simp
    refine List.rdropWhile_last_not (· = '/') inner hne ?_
    simp [heq]

theorem normalForm_of_normal {path : String} (h : Normal path.toList) : normalForm path = path := by
  unfold normalForm
  rw [toSlashes_of_plain h.backslash, dropDots_eq_self h.dots, dropSlashes_eq_self h.slash,
    String.ofList_toList]

/-- The names in normal form are those that bringing into normal form does not change. -/
theorem normalForm_eq_self_iff {path : String} : normalForm path = path ↔ Normal path.toList := by
  refine ⟨?_, normalForm_of_normal⟩
  intro heq
  rw [← heq]
  exact normal_normalForm path

@[simp] theorem normalForm_normalForm (path : String) :
    normalForm (normalForm path) = normalForm path :=
  normalForm_eq_self_iff.mpr (normal_normalForm path)

/-- Normal form is one spelling of a path. -/
theorem Normal.eq_of_normalForm_eq {path other : String} (h : Normal path.toList)
    (hother : Normal other.toList) (hform : normalForm path = normalForm other) : path = other := by
  rwa [normalForm_of_normal h, normalForm_of_normal hother] at hform

/-- A name in normal form may change its suffix. -/
theorem Normal.exchange {stem old new : List Char} (h : Normal (stem ++ old)) (hne : new ≠ [])
    (hflat : '/' ∉ new) (hbackslash : '\\' ∉ new) : Normal (stem ++ new) := by
  refine ⟨?_, ?_, ?_⟩
  · intro hmem
    rcases List.mem_append.mp hmem with hmem | hmem
    · exact h.backslash (List.mem_append_left _ hmem)
    · exact hbackslash hmem
  · -- A stem that is no longer than the dots would leave a slash to the suffix.
    intro rest heq
    rcases stem with _ | ⟨first, _ | ⟨second, stem⟩⟩
    · refine hflat ?_
      rw [List.nil_append] at heq
      simp [heq]
    · refine hflat ?_
      rw [List.cons_append, List.nil_append, List.cons.injEq] at heq
      simp [heq.2]
    · simp only [List.cons_append, List.cons.injEq] at heq
      obtain ⟨rfl, rfl, -⟩ := heq
      exact h.dots (stem ++ old) rfl
  · intro front heq
    rcases List.eq_nil_or_concat new with rfl | ⟨before, last, rfl⟩
    · exact hne rfl
    · rw [List.concat_eq_append, ← List.append_assoc] at heq
      obtain ⟨-, hlast⟩ := List.append_inj' heq rfl
      refine hflat ?_
      rw [List.concat_eq_append, hlast]
      simp

/-! ### Files -/

/-- The paths of sorted files are different, so each text is found under its path. -/
theorem lookup_of_mem {entries : List (String × String)} (hsorted : Sorted entries)
    {path text : String} (h : (path, text) ∈ entries) : entries.lookup path = some text := by
  induction entries with
  | nil => cases h
  | cons entry rest ih =>
      obtain ⟨hbefore, hrest⟩ := List.pairwise_cons.mp hsorted
      rcases List.mem_cons.mp h with rfl | h
      · exact List.lookup_cons_self
      · have hlt : entry.1 < path := hbefore (path, text) h
        have hne : (path == entry.1) = false := by
          rw [beq_eq_false_iff_ne]
          rintro rfl
          exact absurd hlt (String.lt_irrefl _)
        rw [List.lookup_cons, hne]
        exact ih hrest h

theorem lookup_cons (path text name : String) (rest : List (String × String)) :
    ((path, text) :: rest).lookup name = if name = path then some text else rest.lookup name := by
  by_cases h : name = path
  · simp [h]
  · have hne : (name == path) = false := beq_eq_false_iff_ne.mpr h
    simp [List.lookup_cons, h, hne]

theorem lookup_insert (path text name : String) (entries : List (String × String)) :
    (insert path text entries).lookup name
      = if name = path then some text else entries.lookup name := by
  induction entries with
  | nil => exact lookup_cons path text name []
  | cons entry rest ih =>
      obtain ⟨p, t⟩ := entry
      unfold insert
      by_cases hlt : path < p
      · rw [if_pos hlt, lookup_cons]
      · rw [if_neg hlt]
        by_cases hp : path = p
        · subst hp
          rw [if_pos rfl, lookup_cons, lookup_cons]
          by_cases h : name = path <;> simp [h]
        · rw [if_neg hp, lookup_cons, lookup_cons, ih]
          by_cases h : name = p
          · simp [h, Ne.symm hp]
          · simp [h]

variable {archive : Archive} {path text : String}

theorem mem_files_iff : (path, text) ∈ archive.files ↔ archive.files.lookup path = some text :=
  ⟨lookup_of_mem archive.sorted, mem_of_lookup⟩

theorem findFile_eq_some_iff (h : Normal path.toList) :
    archive.findFile path = some text ↔ (path, text) ∈ archive.files := by
  unfold findFile
  rw [normalForm_of_normal h]
  exact mem_files_iff.symm

/-- A file that is added is found under every spelling of its path, and all others as before. -/
theorem findFile_addFile (archive : Archive) (path text name : String) :
    (archive.addFile path text).findFile name
      = if normalForm name = normalForm path then some text else archive.findFile name :=
  lookup_insert (normalForm path) text (normalForm name) archive.files

/-- What is in an archive after a file has been added under a path in normal form. -/
theorem mem_files_addFile {name contents : String} (h : Normal path.toList) :
    (name, contents) ∈ (archive.addFile path text).files ↔
      (name = path ∧ contents = text) ∨ ((name, contents) ∈ archive.files ∧ name ≠ path) := by
  rw [mem_files_iff, mem_files_iff]
  show (insert (normalForm path) text archive.files).lookup name = _ ↔ _
  rw [lookup_insert, normalForm_of_normal h]
  by_cases hname : name = path
  · simp [hname, eq_comm]
  · simp [hname]

/-- All paths of an archive are in normal form. -/
def Tidy (archive : Archive) : Prop := ∀ path ∈ archive.paths, Normal path.toList

theorem Tidy.addFile (h : Tidy archive) (path text : String) : Tidy (archive.addFile path text) := by
  intro name hname
  obtain ⟨entry, hentry, rfl⟩ := List.mem_map.mp hname
  rcases mem_insert hentry with rfl | hentry
  · exact normal_normalForm path
  · exact h entry.1 (List.mem_map_of_mem hentry)

/-- However an archive was put together, its paths are in normal form. -/
theorem tidy_ofFiles (files : List (String × String)) : Tidy (ofFiles files) := by
  unfold ofFiles
  generalize hstart : empty = start
  have h : Tidy start := by
    intro path hpath
    rw [← hstart] at hpath
    cases hpath
  clear hstart
  induction files generalizing start with
  | nil => exact h
  | cons file rest ih => exact ih _ (h.addFile file.1 file.2)

end Archive

end ModuleLoader
