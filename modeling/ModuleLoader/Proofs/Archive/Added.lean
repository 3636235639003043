/-
What an archive holds after files have been added to it.

An archive is a map whose keys are paths up to spelling.  What counts as one spelling is said apart
from how paths are brought into normal form: backslashes stand for slashes, and there may be `./` in
front of a path and slashes behind it (`Spells`).  Dots are taken off first, so that `./` is a
spelling of the empty path and not of `.`, and every path spells exactly one (`normalForm_eq_iff`).

The step is that a file that is added is found from then on under all spellings of its path, and
every other file as before.  So after any number of files the last one at a path is found
(`findFile_ofFiles`), and all the rest is read off that: normal form changes nothing of a path in
normal form, so what is listed is found as it is listed.
-/
import Mathlib.Data.Finset.Card
import Mathlib.Data.List.Induction
import ModuleLoader.Proofs.Archive

namespace ModuleLoader.Archive

/-! ### Spellings -/

/-- With backslashes as slashes the path is `form` behind some `./` and before some slashes, and
neither of them could be more. -/
def Spells (path form : String) : Prop :=
  ∃ dots slashes : Nat,
    toSlashes path.toList
        = (List.replicate dots ['.', '/']).flatten ++ (form.toList ++ List.replicate slashes '/') ∧
      (∀ rest, form.toList ++ List.replicate slashes '/' ≠ '.' :: '/' :: rest) ∧
      ∀ front, form.toList ≠ front ++ ['/']

theorem exists_dots (path : List Char) :
    ∃ dots, path = (List.replicate dots ['.', '/']).flatten ++ dropDots path := by
  fun_induction dropDots path with
  | case1 rest ih =>
      obtain ⟨dots, hdots⟩ := ih
      refine ⟨dots + 1, ?_⟩
      rw [List.replicate_succ, List.flatten_cons, List.append_assoc, ← hdots]
      rfl
  | case2 path => exact ⟨0, rfl⟩

theorem exists_slashes (path : List Char) :
    ∃ slashes, path = dropSlashes path ++ List.replicate slashes '/' := by
  have hcut : path.rdropWhile (· = '/') ++ path.rtakeWhile (· = '/') = path :=
    List.rdropWhile_append_rtakeWhile
  have hslash : ∀ c ∈ path.rtakeWhile (· = '/'), c = '/' := by
    intro c hc
    have heq := List.mem_rtakeWhile_imp hc
    exact of_decide_eq_true heq
  refine ⟨(path.rtakeWhile (· = '/')).length, ?_⟩
  rw [← List.eq_replicate_of_mem hslash]
  exact hcut.symm

theorem dropDots_dots {path : List Char} (h : ∀ rest, path ≠ '.' :: '/' :: rest) (dots : Nat) :
    dropDots ((List.replicate dots ['.', '/']).flatten ++ path) = path := by
  induction dots with
  | zero => exact dropDots_eq_self h
  | succ dots ih =>
      rw [List.replicate_succ, List.flatten_cons, List.append_assoc]
      exact ih

theorem dropSlashes_slashes {path : List Char} (h : ∀ front, path ≠ front ++ ['/'])
    (slashes : Nat) : dropSlashes (path ++ List.replicate slashes '/') = path := by
  induction slashes with
  | zero =>
      rw [List.replicate_zero, List.append_nil]
      exact dropSlashes_eq_self h
  | succ slashes ih =>
      rw [List.replicate_succ', ← List.append_assoc, dropSlashes_eq_rdropWhile,
        List.rdropWhile_concat_pos _ _ _ (by decide)]
      exact ih

/-- **Each path spells one path, and that is its normal form.** -/
theorem normalForm_eq_iff {path form : String} : normalForm path = form ↔ Spells path form := by
  constructor
  · rintro rfl
    have hnormal := normal_normalForm path
    have hform : (normalForm path).toList = dropSlashes (dropDots (toSlashes path.toList)) := by
      unfold normalForm
      rw [String.toList_ofList]
    obtain ⟨dots, hdots⟩ := exists_dots (toSlashes path.toList)
    obtain ⟨slashes, hslashes⟩ := exists_slashes (dropDots (toSlashes path.toList))
    rw [← hform] at hslashes
    refine ⟨dots, slashes, ?_, ?_, hnormal.slash⟩
    · rw [← hslashes]
      exact hdots
    · rw [← hslashes]
      exact dropDots_ne _
  · rintro ⟨dots, slashes, hpath, hdots, hslashes⟩
    unfold normalForm
    rw [hpath, dropDots_dots hdots, dropSlashes_slashes hslashes, String.ofList_toList]

/-! ### The last file at a path -/

/-- The text that was added last under a spelling of the path. -/
def lastText? (added : List (String × String)) (query : String) : Option String :=
  (added.reverse.find? fun file => normalForm file.1 = normalForm query).map Prod.snd

theorem lastText?_concat (added : List (String × String)) (file : String × String) (query : String) :
    lastText? (added ++ [file]) query
      = if normalForm query = normalForm file.1 then some file.2 else lastText? added query := by
  unfold lastText?
  rw [List.reverse_append, List.reverse_singleton, List.singleton_append, List.find?_cons]
  by_cases h : normalForm query = normalForm file.1
  · simp [h]
  · simp [h, Ne.symm h]

theorem isSome_lastText?_iff {added : List (String × String)} {query : String} :
    (lastText? added query).isSome = true ↔
      ∃ file ∈ added, normalForm file.1 = normalForm query := by
  unfold lastText?
  simp [List.find?_isSome]

theorem ofFiles_concat (added : List (String × String)) (file : String × String) :
    ofFiles (added ++ [file]) = (ofFiles added).addFile file.1 file.2 := by
  unfold ofFiles
  rw [List.foldl_append]
  rfl

/-- The file that was added last at a path is found under every spelling of it. -/
theorem findFile_ofFiles (added : List (String × String)) (query : String) :
    (ofFiles added).findFile query = lastText? added query := by
  induction added using List.reverseRecOn with
  | nil => rfl
  | append_singleton added file ih =>
      rw [ofFiles_concat, findFile_addFile, lastText?_concat, ih]

/-! ### What is listed -/

section

variable {archive : Archive} {path : String}

/-- In an archive with paths in normal form a path is listed if it is in normal form and a file is
found there. -/
theorem Tidy.mem_paths_iff (h : Tidy archive) :
    path ∈ archive.paths ↔ normalForm path = path ∧ (archive.findFile path).isSome = true := by
  constructor
  · intro hmem
    have hnormal := h path hmem
    obtain ⟨file, hfile, rfl⟩ := List.mem_map.mp hmem
    refine ⟨normalForm_of_normal hnormal, ?_⟩
    rw [(findFile_eq_some_iff hnormal).mpr hfile]
    rfl
  · rintro ⟨hform, hfound⟩
    obtain ⟨text, htext⟩ := Option.isSome_iff_exists.mp hfound
    have hfile := (findFile_eq_some_iff (normalForm_eq_self_iff.mp hform)).mp htext
    exact List.mem_map_of_mem hfile

theorem ordered_paths (archive : Archive) : archive.paths.Pairwise (· < ·) :=
  List.pairwise_map.mpr archive.sorted

theorem nodup_paths (archive : Archive) : archive.paths.Nodup :=
  (ordered_paths archive).imp fun hlt heq => absurd (heq ▸ hlt) (String.lt_irrefl _)

end

theorem mem_paths_ofFiles {added : List (String × String)} {path : String} :
    path ∈ (ofFiles added).paths ↔ ∃ file ∈ added, normalForm file.1 = path := by
  rw [(tidy_ofFiles added).mem_paths_iff, findFile_ofFiles, isSome_lastText?_iff]
  constructor
  · rintro ⟨hform, file, hfile, heq⟩
    exact ⟨file, hfile, heq.trans hform⟩
  · rintro ⟨file, hfile, rfl⟩
    exact ⟨normalForm_normalForm _, file, hfile, (normalForm_normalForm _).symm⟩

/-- An archive is the map that the files added to it make, the last one at a path being the one
that counts. -/
structure Holds (archive : Archive) (added : List (String × String)) : Prop where
  found : ∀ query, archive.findFile query = lastText? added query
  contained : ∀ query, archive.contains query = (archive.findFile query).isSome
  ordered : archive.paths.Pairwise (· < ·)
  listed : ∀ path, path ∈ archive.paths ↔ ∃ file ∈ added, normalForm file.1 = path
  itself : ∀ file ∈ archive.files,
    normalForm file.1 = file.1 ∧ archive.findFile file.1 = some file.2
  counted : archive.size = (added.map fun file => normalForm file.1).toFinset.card

/-- **An archive is a map up to the spelling of paths**: whatever files are added, it holds the last
one at each path, and it lists the normal forms of all paths in order and each one once. -/
theorem ofFiles_holds (added : List (String × String)) :
    (∀ path form, normalForm path = form ↔ Spells path form) ∧ (ofFiles added).Holds added := by
  refine ⟨fun path form => normalForm_eq_iff, findFile_ofFiles added, fun query => rfl,
    ordered_paths _, fun path => mem_paths_ofFiles, ?_, ?_⟩
  · intro file hfile
    have hnormal := tidy_ofFiles added file.1 (List.mem_map_of_mem hfile)
    exact ⟨normalForm_of_normal hnormal, (findFile_eq_some_iff hnormal).mpr hfile⟩
  · have hset : (ofFiles added).paths.toFinset
        = (added.map fun file => normalForm file.1).toFinset := by
      ext path
      rw [List.mem_toFinset, List.mem_toFinset, mem_paths_ofFiles, List.mem_map]
    rw [← hset, List.toFinset_card_of_nodup (nodup_paths _)]
    unfold size paths
    rw [List.length_map]

example : (ofFiles [("./lib/a.js", "old"), ("lib\\a.js/", "new")]).files = [("lib/a.js", "new")] := by
  decide

end ModuleLoader.Archive
