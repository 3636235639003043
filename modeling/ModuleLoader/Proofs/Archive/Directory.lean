/-
Archives that are written and read back.

An archive is written below an empty directory file by file, and each file lies where its path
leads from the directory.  What holds while files are written (`Written`): below the directory are
directories and the files so far, and the path of each of these leads to it, since nothing is
overwritten and making directories adds nothing else.  Reading adds every file under the path
that it was written for, in whatever order.  So an archive that could be written is read back as it
was (`ofDirectory_writeTo`).
-/
import ModuleLoader.Archive.Directory
import ModuleLoader.Proofs.Archive
import ModuleLoader.Proofs.FileTree.Component
import ModuleLoader.Proofs.Path.Clean

namespace ModuleLoader

open Text

namespace Archive

open FileTree (Extends MakesDirectories names)

/-- A path whose segments are names. -/
def Portable (path : String) : Prop := ∀ s ∈ split '/' path.toList, Path.Ordinary s

instance (path : String) : Decidable (Portable path) :=
  inferInstanceAs (Decidable (∀ s ∈ split '/' path.toList, Path.Ordinary s))

theorem Portable.leads {path : String} (h : Portable path) :
    ∀ name ∈ names path, FileTree.Leads name := by
  intro name hname
  obtain ⟨s, hs, rfl⟩ := List.mem_map.mp hname
  have hordinary := h s hs
  have hlist : ∀ other : String, String.ofList s = other → s = other.toList := by
    rintro other rfl
    exact String.toList_ofList.symm
  exact ⟨fun heq => hordinary.nonempty (hlist _ heq), fun heq => hordinary.notDot (hlist _ heq),
    fun heq => hordinary.notUp (hlist _ heq)⟩

theorem targetNames_of_relative {path : String} (h : FileTree.isRooted path = false)
    (directory : List String) : targetNames directory path = directory ++ names path := by
  unfold targetNames
  rw [h]
  rfl

theorem targetNames_ne_nil (directory : List String) (path : String) :
    targetNames directory path ≠ [] := by
  unfold targetNames
  split
  · exact FileTree.names_ne_nil path
  · exact List.append_ne_nil_of_right_ne_nil _ (FileTree.names_ne_nil path)

theorem Portable.targetNames_eq {path : String} (h : Portable path) (directory : List String) :
    targetNames directory path = directory ++ names path := by
  refine targetNames_of_relative ?_ directory
  rcases hpath : path.toList with _ | ⟨c, rest⟩
  · simp [FileTree.isRooted, hpath]
  · have hne : c ≠ '/' := by
      rintro rfl
      refine (h [] ?_).nonempty rfl
      rw [hpath, split_cons_self]
      exact List.mem_cons_self
    simp [FileTree.isRooted, hpath, hne]

/-! ### Writing -/

/-- A path leads to a directory that nothing lies in. -/
structure IsEmptyDirectory (tree : FileTree) (directory : List String)
    (location : FileTree.Location) : Prop where
  leads : tree.stat directory = .ok (location, .directory)
  nothing : ∀ held ∈ tree.entries, location <+: held.1 → held.1 = location

/-- The files in `done` have been written below a directory that was empty. -/
structure Written (directory : List String) (location : FileTree.Location)
    (done : List (String × String)) (tree : FileTree) : Prop where
  leads : tree.stat directory = .ok (location, .directory)
  /-- Directories and these files are all there is below it. -/
  only : ∀ held ∈ tree.entries, location <+: held.1 → held.1 = location ∨ held.2 = .directory ∨
    ∃ file ∈ done, held = (location ++ names file.1, .file file.2.toUTF8)
  each : ∀ file ∈ done, tree.stat (directory ++ names file.1)
    = .ok (location ++ names file.1, .file file.2.toUTF8)

variable {tree other : FileTree} {directory : List String} {location : FileTree.Location}
  {done : List (String × String)}

theorem IsEmptyDirectory.written (h : IsEmptyDirectory tree directory location) :
    Written directory location [] tree :=
  ⟨h.leads, fun held hheld hbelow => Or.inl (h.nothing held hheld hbelow), nofun⟩

namespace Written

variable (h : Written directory location done tree)

include h

/-- What stands below the directory is a directory or one of the files. -/
theorem entry?_below {below : List String} (hne : below ≠ []) {entry : FileEntry}
    (hentry : tree.entry? (location ++ below) = some entry) :
    entry = .directory ∨
      ∃ file ∈ done, below = names file.1 ∧ entry = .file file.2.toUTF8 := by
  have hmem := FileTree.mem_of_entry? (List.append_ne_nil_of_right_ne_nil _ hne) hentry
  rcases h.only _ hmem (List.prefix_append _ _) with hself | hdirectory | ⟨file, hfile, heq⟩
  · exact absurd (List.append_right_eq_self.mp hself) hne
  · exact Or.inl hdirectory
  · obtain ⟨hplace, hbytes⟩ := Prod.mk.inj heq
    exact Or.inr ⟨file, hfile, List.append_cancel_left hplace, hbytes⟩

theorem noLinksBelow : FileTree.NoLinksBelow tree location := by
  intro below hne target hlink
  rcases h.entry?_below hne hlink with hdirectory | ⟨file, -, -, hfile⟩
  · cases hdirectory
  · cases hfile

/-- Making directories changes nothing of what has been written. -/
theorem makes (hmakes : MakesDirectories tree other) : Written directory location done other := by
  refine ⟨FileTree.stat_of_extends hmakes.keeps h.leads, ?_, fun file hfile =>
    FileTree.stat_of_extends hmakes.keeps (h.each file hfile)⟩
  intro held hheld hbelow
  rcases hmakes.adds held hheld with hheld | hdirectory
  · exact h.only held hheld hbelow
  · exact Or.inr (Or.inl hdirectory)

/-- Where the path of a file leads from the directory. -/
theorem locate_below {path : String} (hpath : Portable path) {dest : FileTree.Destination}
    (hlocate : tree.locate true (directory ++ names path) = .ok dest) :
    dest.Below tree location (names path) := by
  obtain ⟨-, hwalks⟩ := FileTree.locate_eq_ok_iff.mp (FileTree.stat_eq_ok_iff.mp h.leads).1
  obtain ⟨left, hleft⟩ := hwalks.walk_append rfl
  have hwalk := (FileTree.locate_eq_ok_iff.mp hlocate).2
  rw [← FileTree.walk_eq_ok_iff, hleft _ (FileTree.names_ne_nil path), FileTree.walk_eq_ok_iff]
    at hwalk
  exact hwalk.straight h.noLinksBelow hpath.leads

/-- One more file is written where nothing was before. -/
theorem write {path text : String} (hpath : Portable path) (hnew : ∀ file ∈ done, file.1 ≠ path)
    (hwrite : tree.write (directory ++ names path) text.toUTF8 = .ok other) :
    Written directory location (done ++ [(path, text)]) other := by
  obtain ⟨place, rfl, hplace⟩ := FileTree.write_eq_ok hwrite
  obtain ⟨hlocate, rfl⟩ : tree.locate true (directory ++ names path) = .ok (.missing place []) ∧
      place = location ++ names path := by
    rcases hplace with hlocate | ⟨hlocate, hentry⟩
    · have hbelow := h.locate_below hpath hlocate
      exact ⟨hlocate, (List.append_nil place).symm.trans hbelow⟩
    · -- What is there would be a file that was written under the same path.
      obtain ⟨rfl, hheld⟩ := h.locate_below hpath hlocate
      obtain ⟨entry, hheld⟩ := hheld.resolve_left (FileTree.names_ne_nil path)
      rcases h.entry?_below (FileTree.names_ne_nil path) hheld with rfl | ⟨file, hfile, hsame, -⟩
      · exact absurd hheld hentry
      · exact absurd (FileTree.names_injective hsame).symm (hnew file hfile)
  obtain ⟨hallowed, hwalks⟩ := FileTree.locate_eq_ok_iff.mp hlocate
  have hextends : Extends tree (tree.put (location ++ names path) (.file text.toUTF8)) :=
    FileTree.extends_put (hwalks.entry?_missing rfl) _
  refine ⟨FileTree.stat_of_extends hextends h.leads, ?_, ?_⟩
  · intro held hheld hbelow
    rcases FileTree.mem_put hheld with hheld | rfl
    · rcases h.only held hheld hbelow with hself | hdirectory | ⟨file, hfile, heq⟩
      · exact Or.inl hself
      · exact Or.inr (Or.inl hdirectory)
      · exact Or.inr (Or.inr ⟨file, List.mem_append_left _ hfile, heq⟩)
    · exact Or.inr (Or.inr ⟨(path, text), List.mem_append_right _ List.mem_cons_self, rfl⟩)
  · intro file hfile
    rcases List.mem_append.mp hfile with hfile | hfile
    · exact FileTree.stat_of_extends hextends (h.each file hfile)
    · obtain rfl := List.mem_singleton.mp hfile
      refine FileTree.stat_eq_ok_iff.mpr ⟨FileTree.locate_eq_ok_iff.mpr ⟨hallowed, ?_⟩, ?_⟩
      · exact hwalks.put nofun rfl
      · exact FileTree.entry?_put_self
          (List.append_ne_nil_of_right_ne_nil _ (FileTree.names_ne_nil path)) _

theorem writeFile {path text : String} (hpath : Portable path) (hnew : ∀ file ∈ done, file.1 ≠ path)
    (hwrite : (Archive.writeFile tree directory path text).2 = none) :
    Written directory location (done ++ [(path, text)])
      (Archive.writeFile tree directory path text).1 := by
  unfold Archive.writeFile at hwrite ⊢
  simp only [hpath.targetNames_eq] at hwrite ⊢
  have hmakes := h.makes (FileTree.makeDirectories_makes tree
    (FileTree.plainNames (directory ++ names path)).dropLast)
  rcases hmade : tree.makeDirectories (FileTree.plainNames (directory ++ names path)).dropLast
    with ⟨made, _ | failure⟩
  · rw [hmade] at hmakes
    simp only [hmade] at hwrite ⊢
    rcases hbytes : made.write (directory ++ names path) text.toUTF8 with e | after
    · simp only [hbytes] at hwrite
      cases hwrite
    · exact hmakes.write hpath hnew hbytes
  · simp only [hmade] at hwrite
    cases hwrite

end Written

/-- Files that could be written have been written. -/
theorem Written.writeFiles : ∀ {rest done : List (String × String)} {tree : FileTree},
    Written directory location done tree → (∀ file ∈ rest, Portable file.1) →
    (done ++ rest).Pairwise (fun file later => file.1 ≠ later.1) →
    (Archive.writeFiles directory rest tree).2 = none →
    Written directory location (done ++ rest) (Archive.writeFiles directory rest tree).1 := by
  intro rest
  induction rest with
  | nil =>
      intro done tree h _ _ _
      rw [List.append_nil]
      exact h
  | cons file rest ih =>
      intro done tree h hpaths hdiffer hwrite
      have hnew : ∀ written ∈ done, written.1 ≠ file.1 := fun written hwritten =>
        (List.pairwise_append.mp hdiffer).2.2 written hwritten file List.mem_cons_self
      have hsplit : done ++ file :: rest = done ++ [file] ++ rest := by simp
      unfold Archive.writeFiles at hwrite ⊢
      rcases hone : Archive.writeFile tree directory file.1 file.2 with ⟨after, _ | failure⟩
      · have hfile := h.writeFile (hpaths file List.mem_cons_self) hnew (congrArg Prod.snd hone)
        rw [hone] at hfile
        simp only [hone] at hwrite ⊢
        rw [hsplit] at hdiffer ⊢
        exact ih hfile (fun other hother => hpaths other (List.mem_cons_of_mem _ hother))
          hdiffer hwrite
      · simp only [hone] at hwrite
        cases hwrite

/-! ### Reading -/

theorem fromUTF8?_toUTF8 (text : String) : String.fromUTF8? text.toUTF8 = some text := by
  have h : text.toUTF8.IsValidUTF8 := text.isValidUTF8
  unfold String.fromUTF8?
  rw [dif_pos h]
  rfl

namespace Written

variable (h : Written directory location done tree)

include h

/-- A file that was written is read and added as it was. -/
theorem addRead_eq {file : String × String} (hfile : file ∈ done) (archive : Archive) :
    addRead tree directory archive (names file.1) = .ok (archive.addFile file.1 file.2) := by
  unfold addRead FileTree.readText FileTree.read
  simp only [h.each file hfile, fromUTF8?_toUTF8, FileTree.intercalate_names]

/-- The files below the directory are those that were written. -/
theorem mem_filesBelow_iff {found : List String × FileEntry} :
    found ∈ tree.filesBelow location ↔
      ∃ file ∈ done, found = (names file.1, .file file.2.toUTF8) := by
  unfold FileTree.filesBelow
  rw [List.mem_mergeSort, List.mem_filterMap]
  constructor
  · rintro ⟨⟨place, entry⟩, hheld, heq⟩
    simp only at heq
    split at heq
    · next hbelow =>
      simp only [Bool.and_eq_true, decide_eq_true_eq, List.isPrefixOf_iff_prefix] at hbelow
      obtain ⟨⟨hstarts, hne⟩, hentry⟩ := hbelow
      rcases h.only _ hheld hstarts with hself | hdirectory | ⟨file, hfile, hsame⟩
      · exact absurd hself hne
      · exact absurd hdirectory hentry
      · obtain ⟨rfl, rfl⟩ := Prod.mk.inj hsame
        refine ⟨file, hfile, ?_⟩
        rw [List.drop_left] at heq
        exact (Option.some.inj heq).symm
    · cases heq
  · rintro ⟨file, hfile, rfl⟩
    have hne := FileTree.names_ne_nil file.1
    have hentry := (FileTree.stat_eq_ok_iff.mp (h.each file hfile)).2
    refine ⟨_, FileTree.mem_of_entry? (List.append_ne_nil_of_right_ne_nil _ hne) hentry, ?_⟩
    simp [hne]

/-- Reading found files adds exactly these of the files that were written. -/
theorem foldlM_addRead (hpaths : ∀ file ∈ done, Normal file.1.toList)
    (hdiffer : ∀ file ∈ done, ∀ later ∈ done, file.1 = later.1 → file = later) :
    ∀ {found : List (List String × FileEntry)} {archive : Archive} {seen : List (List String)},
      (∀ entry ∈ found, ∃ file ∈ done, entry.1 = names file.1) →
      (∀ file, file ∈ archive.files ↔ file ∈ done ∧ names file.1 ∈ seen) →
      ∃ read, found.foldlM (fun archive entry => addRead tree directory archive entry.1) archive
          = .ok read ∧
        ∀ file, file ∈ read.files ↔
          file ∈ done ∧ (names file.1 ∈ found.map Prod.fst ∨ names file.1 ∈ seen) := by
  intro found
  induction found with
  | nil =>
      intro archive seen _ hseen
      refine ⟨archive, rfl, fun file => ?_⟩
      rw [hseen file]
      simp
  | cons entry rest ih =>
      intro archive seen hfound hseen
      obtain ⟨file, hfile, hentry⟩ := hfound entry List.mem_cons_self
      have hnext : ∀ other, other ∈ (archive.addFile file.1 file.2).files ↔
          other ∈ done ∧ names other.1 ∈ names file.1 :: seen := by
        rintro ⟨path, text⟩
        rw [mem_files_addFile (hpaths file hfile), hseen, List.mem_cons]
        constructor
        · rintro (⟨rfl, rfl⟩ | ⟨⟨hdone, hmem⟩, -⟩)
          · exact ⟨hfile, Or.inl rfl⟩
          · exact ⟨hdone, Or.inr hmem⟩
        · rintro ⟨hdone, hmem⟩
          by_cases hsame : path = file.1
          · have hequal := hdiffer _ hdone file hfile hsame
            exact Or.inl ⟨hsame, congrArg Prod.snd hequal⟩
          · refine Or.inr ⟨⟨hdone, hmem.resolve_left fun heq => ?_⟩, hsame⟩
            exact hsame (FileTree.names_injective heq)
      obtain ⟨read, hread, hfiles⟩ :=
        ih (fun other hother => hfound other (List.mem_cons_of_mem _ hother)) hnext
      refine ⟨read, ?_, fun other => ?_⟩
      · rw [List.foldlM_cons, hentry, h.addRead_eq hfile]
        exact hread
      · rw [hfiles other, List.map_cons, List.mem_cons, List.mem_cons, hentry]
        tauto

end Written

/-- Archives with the same files are the same. -/
theorem eq_of_mem_files {archive other : Archive}
    (h : ∀ file, file ∈ archive.files ↔ file ∈ other.files) : archive = other := by
  have hnodup : ∀ {files : List (String × String)}, Sorted files → files.Nodup := by
    intro files hsorted
    refine hsorted.imp fun hlt heq => ?_
    rw [heq] at hlt
    exact String.lt_irrefl _ hlt
  have hperm := (List.perm_ext_iff_of_nodup (hnodup archive.sorted) (hnodup other.sorted)).mpr h
  have hfiles : archive.files = other.files :=
    hperm.eq_of_pairwise (fun a b _ _ hab hba => absurd (Std.lt_trans hab hba) (String.lt_irrefl _))
      archive.sorted other.sorted
  obtain ⟨files, sorted⟩ := archive
  obtain rfl : files = other.files := hfiles
  rfl

/-- **An archive that was written below an empty directory is read back as it was.** -/
theorem ofDirectory_writeTo {archive : Archive} {tree : FileTree} {directory : List String}
    {location : FileTree.Location} (htidy : archive.Tidy)
    (hportable : ∀ path ∈ archive.paths, Portable path)
    (hempty : IsEmptyDirectory tree directory location)
    (hwrite : (archive.writeTo tree directory).2 = none) :
    ofDirectory (archive.writeTo tree directory).1 directory = .ok archive := by
  have hpath : ∀ file ∈ archive.files, file.1 ∈ archive.paths := fun file hfile =>
    List.mem_map_of_mem hfile
  have hdistinct : archive.files.Pairwise (fun file later => file.1 ≠ later.1) :=
    archive.sorted.imp fun hlt heq => by
      rw [heq] at hlt
      exact String.lt_irrefl _ hlt
  have hwritten : Written directory location archive.files (archive.writeTo tree directory).1 :=
    hempty.written.writeFiles (fun file hfile => hportable _ (hpath file hfile)) hdistinct hwrite
  have hsame : ∀ file ∈ archive.files, ∀ later ∈ archive.files, file.1 = later.1 → file = later := by
    intro file hfile later hlater heq
    have htext := lookup_of_mem archive.sorted hfile
    rw [heq, lookup_of_mem archive.sorted hlater] at htext
    exact Prod.ext heq (Option.some.inj htext).symm
  generalize (archive.writeTo tree directory).1 = after at hwritten
  have hkept : ((after.filesBelow location).filter fun entry =>
      !isLinkedDirectory after directory entry) = after.filesBelow location := by
    rw [List.filter_eq_self]
    intro entry hentry
    obtain ⟨file, -, rfl⟩ := hwritten.mem_filesBelow_iff.mp hentry
    rfl
  have hfound : ∀ entry ∈ after.filesBelow location, ∃ file ∈ archive.files, entry.1 = names file.1 := by
    intro entry hentry
    obtain ⟨file, hfile, rfl⟩ := hwritten.mem_filesBelow_iff.mp hentry
    exact ⟨file, hfile, rfl⟩
  have hstart : ∀ file, file ∈ empty.files ↔ file ∈ archive.files ∧ names file.1 ∈ [] := by
    simp [empty]
  obtain ⟨read, hread, hfiles⟩ :=
    hwritten.foldlM_addRead (fun file hfile => htidy _ (hpath file hfile)) hsame hfound hstart
  have heq : read = archive := by
    refine eq_of_mem_files fun file => ?_
    rw [hfiles file]
    refine ⟨fun hfile => hfile.1, fun hfile => ⟨hfile, Or.inl ?_⟩⟩
    exact List.mem_map_of_mem (hwritten.mem_filesBelow_iff.mpr ⟨file, hfile, rfl⟩)
  unfold ofDirectory
  simp only [hwritten.leads, hkept, hread, heq]

/-! ### A directory and a file beside it -/

/-- A directory with nothing in it. -/
def emptyOut : FileTree := ⟨[(["out"], .directory)]⟩

/-- The tree while the file in the directory below is still to be written. -/
def madeLib : FileTree := ⟨emptyOut.entries ++ [(["out", "lib"], .directory)]⟩

/-- The tree when that file has been written. -/
def wroteLib : FileTree := ⟨madeLib.entries ++ [(["out", "lib", "a.js"], .file "a".toUTF8)]⟩

/-- An archive with a file in a directory and a file beside it. -/
def nested : Archive := ofFiles [("main.js", "m"), ("lib/a.js", "a")]

theorem makeDirectories_emptyOut : emptyOut.makeDirectories ["out", "lib"] = (madeLib, none) := by
  have hlocate : emptyOut.locate false ["out", "lib"] = .ok (.missing ["out", "lib"] []) := by
    simp +decide [FileTree.locate, FileTree.walk, FileTree.entry?, emptyOut]
  have hput : emptyOut.put ["out", "lib"] .directory = madeLib := by rfl
  have hplain : FileTree.plainNames ["out", "lib"] = ["out", "lib"] := by decide
  simp [FileTree.makeDirectories, FileTree.makeDirectories.go, FileTree.makeDirectory, hplain, hlocate,
    hput]

theorem write_madeLib : madeLib.write ["out", "lib", "a.js"] "a".toUTF8 = .ok wroteLib := by
  have hlocate : madeLib.locate true ["out", "lib", "a.js"]
      = .ok (.missing ["out", "lib", "a.js"] []) := by
    simp +decide [FileTree.locate, FileTree.walk, FileTree.entry?, madeLib, emptyOut]
  unfold FileTree.write
  rw [hlocate]
  rfl

theorem makeDirectories_wroteLib : wroteLib.makeDirectories ["out"] = (wroteLib, none) := by
  have hlocate : ∀ follow, wroteLib.locate follow ["out"] = .ok (.found ["out"]) := by
    intro follow
    simp +decide [FileTree.locate, FileTree.walk, FileTree.entry?, wroteLib, madeLib, emptyOut]
  have hdirectory : wroteLib.isDirectory ["out"] = true := by
    unfold FileTree.isDirectory FileTree.stat
    rw [hlocate]
    rfl
  have hplain : FileTree.plainNames ["out"] = ["out"] := by decide
  simp [FileTree.makeDirectories, FileTree.makeDirectories.go, FileTree.makeDirectory, hplain, hlocate,
    hdirectory]

theorem writeTo_nested : (nested.writeTo emptyOut ["out"]).2 = none := by
  have hfiles : nested.files = [("lib/a.js", "a"), ("main.js", "m")] := by decide
  have hlib : writeFile emptyOut ["out"] "lib/a.js" "a" = (wroteLib, none) := by
    have hnames : targetNames ["out"] "lib/a.js" = ["out", "lib", "a.js"] := by decide
    have hfront : (FileTree.plainNames ["out", "lib", "a.js"]).dropLast = ["out", "lib"] := by decide
    unfold writeFile
    simp only [hnames, hfront, makeDirectories_emptyOut, write_madeLib]
  have hmain : (writeFile wroteLib ["out"] "main.js" "m").2 = none := by
    have hnames : targetNames ["out"] "main.js" = ["out", "main.js"] := by decide
    have hfront : (FileTree.plainNames ["out", "main.js"]).dropLast = ["out"] := by decide
    have hlocate : wroteLib.locate true ["out", "main.js"] = .ok (.missing ["out", "main.js"] []) := by
      simp +decide [FileTree.locate, FileTree.walk, FileTree.entry?, wroteLib, madeLib, emptyOut]
    unfold writeFile
    simp only [hnames, hfront, makeDirectories_wroteLib]
    unfold FileTree.write
    rw [hlocate]
    rfl
  unfold writeTo
  rw [hfiles]
  unfold writeFiles
  simp only [hlib]
  unfold writeFiles
  rcases hone : writeFile wroteLib ["out"] "main.js" "m" with ⟨after, _ | failure⟩
  · rfl
  · rw [hone] at hmain
    exact hmain

/-- An archive with a directory in it is written and read back. -/
theorem ofDirectory_writeTo_nested :
    nested.Tidy ∧ (∀ path ∈ nested.paths, Portable path) ∧
      IsEmptyDirectory emptyOut ["out"] ["out"] ∧ (nested.writeTo emptyOut ["out"]).2 = none ∧
      ofDirectory (nested.writeTo emptyOut ["out"]).1 ["out"] = .ok nested := by
  have htidy : nested.Tidy := tidy_ofFiles _
  have hportable : ∀ path ∈ nested.paths, Portable path := by
    have hpaths : nested.paths = ["lib/a.js", "main.js"] := by decide
    rw [hpaths]
    decide
  have hempty : IsEmptyDirectory emptyOut ["out"] ["out"] := by
    refine ⟨?_, ?_⟩
    · have hlocate : emptyOut.locate true ["out"] = .ok (.found ["out"]) := by
        simp +decide [FileTree.locate, FileTree.walk, FileTree.entry?, emptyOut]
      exact FileTree.stat_eq_ok_iff.mpr ⟨hlocate, rfl⟩
    · intro held hheld _
      rw [List.mem_singleton.mp hheld]
  exact ⟨htidy, hportable, hempty, writeTo_nested,
    ofDirectory_writeTo htidy hportable hempty writeTo_nested⟩

end Archive

end ModuleLoader
