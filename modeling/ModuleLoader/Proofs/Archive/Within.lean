/-
Where an archive writes.

A file of an archive is written where its path leads from the directory, and a path may lead
anywhere: one from the root stands for itself, and `..` goes up.  So what is written stays below
the directory if that is so for every path in its text (`Stays`), for the file as for the
directories that are made on the way to it.  All that can be made besides is the directory itself
and what leads to it.

The converse needs trees without links, since a link may lead back below the directory.  There a
file that could be written stands at the place of its path, and directories stand at the places on
the way (`Reached`); neither goes away while the other files are written.  So a tree that holds
nothing but the directory tells from what it has become whether all paths stay (`writeTo_stays`).
-/
import ModuleLoader.Proofs.Archive.Directory
import ModuleLoader.Proofs.FileTree.Lexical

namespace ModuleLoader.Archive

open FileTree (Builds Built Linkless place plainNames)

variable {tree other : FileTree} {directory : List String} {path : String}

/-! ### Places below a directory -/

/-- A location that lies below the directory. -/
def Below (directory : List String) (location : FileTree.Location) : Prop :=
  place directory <+: location ∧ location ≠ place directory

/-- A location that leads to the directory, or the directory itself. -/
def OnTheWay (directory : List String) (location : FileTree.Location) : Prop :=
  ∃ way ∈ directory.inits, place way = location

instance (directory : List String) (location : FileTree.Location) :
    Decidable (Below directory location) :=
  inferInstanceAs (Decidable (_ ∧ _))

instance (directory : List String) (location : FileTree.Location) :
    Decidable (OnTheWay directory location) :=
  inferInstanceAs (Decidable (∃ way ∈ directory.inits, place way = location))

/-- A file at the path lies below the directory, and so does all that leads from there to it. -/
structure Stays (directory : List String) (path : String) : Prop where
  ways : ∀ way ∈ (targetNames directory path).inits, way ≠ targetNames directory path →
    OnTheWay directory (place way) ∨ Below directory (place way)
  file : Below directory (place (targetNames directory path))

instance (directory : List String) (path : String) : Decidable (Stays directory path) :=
  decidable_of_iff (_ ∧ _) ⟨fun h => ⟨h.1, h.2⟩, fun h => ⟨h.ways, h.file⟩⟩

/-- A path that neither starts at the root nor goes up stays, unless it names nothing. -/
theorem stays_of_down (hroot : FileTree.isRooted path = false) (hup : ".." ∉ FileTree.names path)
    (hname : plainNames (FileTree.names path) ≠ []) : Stays directory path := by
  have htarget := targetNames_of_relative hroot directory
  have hdown : ∀ back, ".." ∉ back →
      place (directory ++ back) = place directory ++ plainNames back := fun back hback => by
    rw [FileTree.place_append, FileTree.foldl_stepTo_down hback]
  refine ⟨fun way hway _ => ?_, ?_⟩
  · rw [htarget, List.mem_inits] at hway
    rcases List.prefix_or_prefix_of_prefix hway (List.prefix_append _ _) with hfront | ⟨back, rfl⟩
    · exact Or.inl ⟨way, (List.mem_inits _ _).mpr hfront, rfl⟩
    · have hback : back <+: FileTree.names path := (List.prefix_append_right_inj _).mp hway
      rw [hdown back fun h => hup (hback.subset h)]
      by_cases hempty : plainNames back = []
      · refine Or.inl ⟨directory, (List.mem_inits _ _).mpr (List.prefix_refl _), ?_⟩
        rw [hempty, List.append_nil]
      · exact Or.inr ⟨List.prefix_append _ _, fun h => hempty (List.append_right_eq_self.mp h)⟩
  · rw [htarget, hdown _ hup]
    exact ⟨List.prefix_append _ _, fun h => hname (List.append_right_eq_self.mp h)⟩

/-! ### What is made -/

/-- The places that lead to a path are those of the names that count. -/
theorem exists_way_of_prefix {path way : List String} (hpath : path ≠ [])
    (hway : way <+: (plainNames path).dropLast) :
    ∃ front, front <+: path ∧ front ≠ path ∧ place front = place way := by
  by_cases hempty : way = []
  · exact ⟨[], List.nil_prefix, hpath.symm, by rw [hempty]⟩
  · obtain ⟨front, hfront, rfl⟩ :=
      List.prefix_filter_iff.mp (hway.trans (List.dropLast_prefix _))
    refine ⟨front, hfront, ?_, (FileTree.place_plainNames front).symm⟩
    rintro rfl
    have hlength := hway.length_le
    rw [List.length_dropLast] at hlength
    have hpos := List.length_pos_iff.mpr hempty
    exact absurd hlength (Nat.not_le.mpr (Nat.sub_one_lt_of_lt hpos))

section Builds

variable (directories files : FileTree.Location → Prop)

/-- A file is written, and directories are made that lead to it. -/
theorem writeFile_builds (tree : FileTree) (text : String)
    (hways : ∀ way ∈ (targetNames directory path).inits, way ≠ targetNames directory path →
      directories (place way))
    (hfile : files (place (targetNames directory path))) :
    Builds (fun way => directories (place way)) (fun path => files (place path)) tree
      (writeFile tree directory path text).1 := by
  have hmakes : Builds (fun way => directories (place way)) (fun path => files (place path)) tree
      (tree.makeDirectories (plainNames (targetNames directory path)).dropLast).1 := by
    refine FileTree.makeDirectories_builds tree fun way hway => ?_
    have hplain : plainNames (plainNames (targetNames directory path)).dropLast
        = (plainNames (targetNames directory path)).dropLast :=
      List.filter_eq_self.mpr fun name hname =>
        (List.mem_filter.mp ((List.dropLast_prefix _).subset hname)).2
    rw [hplain] at hway
    obtain ⟨front, hfront, hne, hplace⟩ := exists_way_of_prefix (targetNames_ne_nil _ _) hway
    rw [← hplace]
    exact hways front ((List.mem_inits _ _).mpr hfront) hne
  unfold writeFile
  rcases hmade : tree.makeDirectories (plainNames (targetNames directory path)).dropLast
    with ⟨made, _ | failure⟩
  · rw [hmade] at hmakes
    simp only [hmade]
    rcases hwrite : made.write (targetNames directory path) text.toUTF8 with e | after
    · exact hmakes
    · exact hmakes.trans (.file hfile hwrite (.done after))
  · rw [hmade] at hmakes
    simp only [hmade]
    exact hmakes

theorem writeFiles_builds : ∀ {rest : List (String × String)} (tree : FileTree),
    (∀ file ∈ rest, (∀ way ∈ (targetNames directory file.1).inits,
      way ≠ targetNames directory file.1 → directories (place way)) ∧
      files (place (targetNames directory file.1))) →
    Builds (fun way => directories (place way)) (fun path => files (place path)) tree
      (writeFiles directory rest tree).1 := by
  intro rest
  induction rest with
  | nil => exact fun tree _ => .done tree
  | cons file rest ih =>
      intro tree hrest
      obtain ⟨hways, hfile⟩ := hrest file List.mem_cons_self
      have hone := writeFile_builds directories files tree file.2 hways hfile
      unfold writeFiles
      rcases hmade : writeFile tree directory file.1 file.2 with ⟨made, _ | failure⟩
      · rw [hmade] at hone
        exact hone.trans (ih made fun other hother => hrest other (List.mem_cons_of_mem _ hother))
      · rw [hmade] at hone
        exact hone

end Builds

/-! ### What stands where it was written -/

/-- A file stands at the place of the path, and directories lead to it. -/
structure Reached (directory : List String) (path : String) (tree : FileTree) : Prop where
  ways : ∀ way ∈ (targetNames directory path).inits, way ≠ targetNames directory path →
    tree.entry? (place way) = some .directory
  file : ∃ bytes, tree.entry? (place (targetNames directory path)) = some (.file bytes)

theorem Reached.built {directories files : List String → Prop} (h : Reached directory path tree)
    (hbuilt : Built directories files tree other) : Reached directory path other := by
  obtain ⟨bytes, hfile⟩ := h.file
  exact ⟨fun way hway hne => hbuilt.directories _ (h.ways way hway hne), hbuilt.files _ bytes hfile⟩

theorem writeFile_built (hlinks : tree.Linkless) (directory : List String) (path text : String) :
    Built (fun _ => True) (fun _ => True) tree (writeFile tree directory path text).1 :=
  (writeFile_builds (fun _ => True) (fun _ => True) tree text (fun _ _ _ => trivial)
    trivial).built hlinks

theorem writeFiles_built (hlinks : tree.Linkless) (directory : List String)
    (rest : List (String × String)) :
    Built (fun _ => True) (fun _ => True) tree (writeFiles directory rest tree).1 :=
  (writeFiles_builds (fun _ => True) (fun _ => True) tree fun _ _ =>
    ⟨fun _ _ _ => trivial, trivial⟩).built hlinks

theorem writeFile_reached {text : String} (hlinks : tree.Linkless)
    (hwrite : (writeFile tree directory path text).2 = none) :
    Reached directory path (writeFile tree directory path text).1 := by
  have hmakes : Builds (fun _ => True) (fun _ => True) tree
      (tree.makeDirectories (plainNames (targetNames directory path)).dropLast).1 :=
    FileTree.makeDirectories_builds tree fun _ _ => trivial
  have hlinks' := (hmakes.built hlinks).linkless
  unfold writeFile at hwrite ⊢
  rcases hmade : tree.makeDirectories (plainNames (targetNames directory path)).dropLast
    with ⟨made, _ | failure⟩
  · rw [hmade] at hlinks'
    simp only [hmade] at hwrite ⊢
    rcases hbytes : made.write (targetNames directory path) text.toUTF8 with e | after
    · simp only [hbytes] at hwrite
      cases hwrite
    · obtain ⟨hfree, rfl, hways⟩ := FileTree.write_place hlinks' hbytes
      refine ⟨fun way hway hne => ?_, text.toUTF8,
        FileTree.entry?_put_self (FileTree.ne_nil_of_not_directory hfree) _⟩
      obtain ⟨rest, hrest⟩ := (List.mem_inits _ _).mp hway
      have hdirectory : made.entry? (place way) = some .directory := by
        refine hways way rest hrest.symm ?_
        rintro rfl
        exact hne ((List.append_nil way).symm.trans hrest)
      rw [FileTree.entry?_put_of_ne, hdirectory]
      intro hplace
      rw [← hplace] at hfree
      exact hfree hdirectory
  · simp only [hmade] at hwrite
    cases hwrite

theorem writeFiles_reached : ∀ {rest : List (String × String)} {tree : FileTree},
    tree.Linkless → (writeFiles directory rest tree).2 = none →
    ∀ file ∈ rest, Reached directory file.1 (writeFiles directory rest tree).1 := by
  intro rest
  induction rest with
  | nil => exact fun _ _ => nofun
  | cons file rest ih =>
      intro tree hlinks hwrite
      have hbuilt := writeFile_built hlinks directory file.1 file.2
      unfold writeFiles at hwrite ⊢
      rcases hone : writeFile tree directory file.1 file.2 with ⟨made, _ | failure⟩
      · rw [hone] at hbuilt
        have hreached := writeFile_reached hlinks (congrArg Prod.snd hone)
        rw [hone] at hreached
        simp only [hone] at hwrite ⊢
        intro other hother
        rcases List.mem_cons.mp hother with rfl | hother
        · exact hreached.built (writeFiles_built hbuilt.linkless directory rest)
        · exact ih hbuilt.linkless hwrite other hother
      · simp only [hone] at hwrite
        cases hwrite

/-! ### Staying below the directory -/

/-- The tree holds what is below the directory and the directories that lead to it. -/
def Within (directory : List String) (tree : FileTree) : Prop :=
  ∀ location entry, tree.entry? location = some entry →
    Below directory location ∨ (entry = .directory ∧ OnTheWay directory location)

/-- Every file that has been written lies below the directory, and so does every directory that has
been made, unless it leads there. -/
def BuildsBelow (directory : List String) (tree after : FileTree) : Prop :=
  Builds (fun way => OnTheWay directory (place way) ∨ Below directory (place way))
    (fun path => Below directory (place path)) tree after

theorem Within.buildsBelow (h : Within directory tree) (hlinks : tree.Linkless)
    (hbuilds : BuildsBelow directory tree other) : Within directory other := by
  intro location entry hentry
  have hbuilt := FileTree.Builds.built hbuilds hlinks
  rcases hbuilt.origin location entry hentry with
    hold | ⟨rfl, way, hway, rfl⟩ | ⟨-, path, hpath, rfl⟩
  · exact h location entry hold
  · exact hway.elim (fun hway => Or.inr ⟨rfl, hway⟩) Or.inl
  · exact Or.inl hpath

theorem Reached.stays (h : Reached directory path tree) (hwithin : Within directory tree) :
    Stays directory path := by
  refine ⟨fun way hway hne => ?_, ?_⟩
  · rcases hwithin _ _ (h.ways way hway hne) with hbelow | ⟨-, hway⟩
    · exact Or.inr hbelow
    · exact Or.inl hway
  · obtain ⟨bytes, hfile⟩ := h.file
    rcases hwithin _ _ hfile with hbelow | ⟨heq, -⟩
    · exact hbelow
    · cases heq

/-- **Writing an archive stays below its directory if the archive's paths do**, also where it fails,
and a tree that it has stayed in shows that they do. -/
theorem writeTo_stays (archive : Archive) (directory : List String) :
    ((∀ path ∈ archive.paths, Stays directory path) →
      ∀ tree, BuildsBelow directory tree (archive.writeTo tree directory).1) ∧
    ∀ tree : FileTree, tree.Linkless → Within directory tree →
      (archive.writeTo tree directory).2 = none →
      (Within directory (archive.writeTo tree directory).1 ↔
        ∀ path ∈ archive.paths, Stays directory path) := by
  have hbuilds : (∀ path ∈ archive.paths, Stays directory path) →
      ∀ tree, BuildsBelow directory tree (archive.writeTo tree directory).1 := by
    intro hstays tree
    have hpaths : ∀ file ∈ archive.files, Stays directory file.1 := fun file hfile =>
      hstays file.1 (List.mem_map_of_mem hfile)
    exact writeFiles_builds (fun location => OnTheWay directory location ∨ Below directory location)
      (Below directory) tree fun file hfile => ⟨(hpaths file hfile).ways, (hpaths file hfile).file⟩
  refine ⟨hbuilds, fun tree hlinks hwithin hwrite => ⟨fun hafter path hpath => ?_, fun hstays => ?_⟩⟩
  · obtain ⟨file, hfile, rfl⟩ := List.mem_map.mp hpath
    exact (writeFiles_reached hlinks hwrite file hfile).stays hafter
  · exact hwithin.buildsBelow hlinks (hbuilds hstays tree)

theorem linkless_emptyOut : emptyOut.Linkless :=
  FileTree.linkless_of_entries fun held hheld => by
    rw [List.mem_singleton.mp hheld]
    exact Or.inl rfl

theorem within_emptyOut : Within ["out"] emptyOut := by
  intro location entry hentry
  refine Or.inr ?_
  by_cases hroot : location = []
  · rw [hroot] at hentry ⊢
    exact ⟨(Option.some.inj hentry).symm, by decide⟩
  · have hheld := FileTree.mem_of_entry? hroot hentry
    obtain ⟨rfl, rfl⟩ := Prod.mk.inj (List.mem_singleton.mp hheld)
    exact ⟨rfl, by decide⟩

/-- An archive with a directory in it is written below an empty directory. -/
theorem writeTo_stays_nested :
    (∀ path ∈ nested.paths, Stays ["out"] path) ∧ emptyOut.Linkless ∧ Within ["out"] emptyOut ∧
      (nested.writeTo emptyOut ["out"]).2 = none ∧
      BuildsBelow ["out"] emptyOut (nested.writeTo emptyOut ["out"]).1 ∧
      Within ["out"] (nested.writeTo emptyOut ["out"]).1 := by
  have hpaths : nested.paths = ["lib/a.js", "main.js"] := by decide
  have hdown : ∀ path ∈ nested.paths, FileTree.isRooted path = false ∧ ".." ∉ FileTree.names path ∧
      plainNames (FileTree.names path) ≠ [] := by
    rw [hpaths]
    decide
  have hstays : ∀ path ∈ nested.paths, Stays ["out"] path := fun path hpath =>
    have ⟨hroot, hup, hname⟩ := hdown path hpath
    stays_of_down hroot hup hname
  obtain ⟨hbuilds, hwithin⟩ := writeTo_stays nested ["out"]
  exact ⟨hstays, linkless_emptyOut, within_emptyOut, writeTo_nested, hbuilds hstays _,
    (hwithin _ linkless_emptyOut within_emptyOut writeTo_nested).mpr hstays⟩

/-- A directory and a file beside it. -/
def guarded : FileTree := ⟨[(["out"], .directory), (["secret.js"], .file "old".toUTF8)]⟩

/-- **A path that goes up overwrites what lies beside the directory.** -/
theorem writeTo_beside :
    ¬ Below ["out"] ["secret.js"] ∧
      ((ofFiles [("../secret.js", "new")]).writeTo guarded ["out"]).2 = none ∧
      guarded.entry? ["secret.js"] = some (.file "old".toUTF8) ∧
      FileTree.entry? ((ofFiles [("../secret.js", "new")]).writeTo guarded ["out"]).1 ["secret.js"]
        = some (.file "new".toUTF8) := by
  have hfiles : (ofFiles [("../secret.js", "new")]).files = [("../secret.js", "new")] := by decide
  have hnames : targetNames ["out"] "../secret.js" = ["out", "..", "secret.js"] := by decide
  have hfront : (plainNames ["out", "..", "secret.js"]).dropLast = ["out", ".."] := by decide
  have hplain : plainNames ["out", ".."] = ["out", ".."] := by decide
  have hroot : ∀ follow, guarded.locate follow ["out", ".."] = .ok (.found []) := by
    intro follow
    simp +decide [FileTree.locate, FileTree.walk, FileTree.entry?, guarded]
  have hdirectory : guarded.isDirectory ["out", ".."] = true := by
    unfold FileTree.isDirectory FileTree.stat
    rw [hroot]
    rfl
  have hmakes : guarded.makeDirectories ["out", ".."] = (guarded, none) := by
    simp [FileTree.makeDirectories, FileTree.makeDirectories.go, FileTree.makeDirectory, hplain,
      hroot, hdirectory]
  have hlocate : guarded.locate true ["out", "..", "secret.js"] = .ok (.found ["secret.js"]) := by
    simp +decide [FileTree.locate, FileTree.walk, FileTree.entry?, guarded]
  have hwrite : guarded.write ["out", "..", "secret.js"] "new".toUTF8
      = .ok (guarded.put ["secret.js"] (.file "new".toUTF8)) := by
    unfold FileTree.write
    rw [hlocate]
    rfl
  have hwritten : (ofFiles [("../secret.js", "new")]).writeTo guarded ["out"]
      = (guarded.put ["secret.js"] (.file "new".toUTF8), none) := by
    unfold writeTo
    rw [hfiles]
    unfold writeFiles writeFile
    simp only [hnames, hfront, hmakes, hwrite]
    rfl
  rw [hwritten]
  exact ⟨by decide, rfl, rfl, FileTree.entry?_put_self (by decide) _⟩

end ModuleLoader.Archive
