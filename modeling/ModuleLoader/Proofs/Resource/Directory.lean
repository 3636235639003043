/-
Resources of a directory.

A name is looked for below the directory by its text, but whether it may be is told by its
components.  A name passes if it neither starts at the root nor has `..` among its names
(`Contained`), and then its path goes down from the directory by the names of it that count, however
many slashes and `.` stand between them.  Any other name is absent, whatever the tree holds
(`openName_contained`).

The path of the directory may be empty.  Then a name is a path by itself, and a `.` at its beginning
is a component of it like the names (`locate_dotted`).

Links below the directory may still lead out of it.  Without them, what is opened lies at the very
place that the name spells.

The tree has no permissions, so a file that is found can always be opened.  That a directory fails,
because a file in it may not be read, cannot happen here.
-/
import ModuleLoader.Proofs.FileTree.Descent
import ModuleLoader.Resource.Provider

namespace ModuleLoader.Provider

open FileTree (NoLinksBelow components joinPath leading names place plainNames steps)

variable {tree : FileTree} {location : FileTree.Location} {root name located : String}
  {path : List String} {bytes : ByteArray}

/-! ### Names that pass -/

/-- A name that neither starts at the root nor goes up. -/
structure Contained (name : String) : Prop where
  relative : FileTree.isRooted name = false
  down : ".." ∉ names name

instance (name : String) : Decidable (Contained name) :=
  decidable_of_iff (_ ∧ _) ⟨fun h => ⟨h.1, h.2⟩, fun h => ⟨h.relative, h.down⟩⟩

theorem locate_of_contained (h : Contained name) (root : String) :
    locate root name = some (joinPath root name) :=
  if_pos (FileTree.isContained_components_iff.mpr ⟨h.relative, h.down⟩)

theorem locate_of_not_contained (h : ¬ Contained name) (root : String) : locate root name = none :=
  if_neg fun hall =>
    have ⟨hrelative, hdown⟩ := FileTree.isContained_components_iff.mp hall
    h ⟨hrelative, hdown⟩

theorem locate_eq_some_iff : locate root name = some located ↔
    Contained name ∧ joinPath root name = located := by
  by_cases h : Contained name
  · rw [locate_of_contained h, Option.some.injEq]
    exact (and_iff_right h).symm
  · rw [locate_of_not_contained h]
    exact ⟨nofun, fun hboth => absurd hboth.1 h⟩

/-! ### Files -/

/-- The bytes of the file that a path leads to, if it leads to a file. -/
def fileAt (tree : FileTree) (path : List String) : Option ByteArray :=
  match tree.stat path with
  | .ok (_, .file bytes) => some bytes
  | _ => none

theorem fileAt_eq_some_iff :
    fileAt tree path = some bytes ↔ ∃ location, tree.stat path = .ok (location, .file bytes) := by
  unfold fileAt
  rcases tree.stat path with e | ⟨location, bytes | _ | target⟩ <;> simp

/-- A resource of a directory is the file that its path leads to; in the tree it can be read. -/
theorem openName_directory (tree : FileTree) (root name : String) :
    openName tree name (.directory root)
      = .ok (((locate root name).bind fun located => fileAt tree (names located)).map
          fun bytes => ⟨bytes, none⟩) := by
  show openFile tree root name = _
  unfold openFile
  rcases locate root name with _ | located
  · rfl
  · simp only [Option.bind_some]
    unfold FileTree.isFile FileTree.read fileAt
    rcases tree.stat (names located) with e | ⟨location, bytes | _ | target⟩ <;> rfl

theorem openName_of_not_contained (h : ¬ Contained name) (tree : FileTree) (root : String) :
    openName tree name (.directory root) = .ok none := by
  rw [openName_directory, locate_of_not_contained h]
  rfl

/-- Without links the file lies where the name leads from the directory. -/
theorem entry?_of_fileAt (hroot : tree.stat (names root) = .ok (location, .directory))
    (hlinks : NoLinksBelow tree location) (hname : Contained name)
    (h : fileAt tree (names (joinPath root name)) = some bytes) :
    tree.entry? (location ++ plainNames (names name)) = some (.file bytes) := by
  obtain ⟨place, hstat⟩ := fileAt_eq_some_iff.mp h
  obtain ⟨hlocate, hentry⟩ := FileTree.stat_eq_ok_iff.mp hstat
  obtain ⟨-, hroot⟩ := FileTree.locate_eq_ok_iff.mp (FileTree.stat_eq_ok_iff.mp hroot).1
  obtain ⟨left, hleft⟩ := FileTree.walk_ahead hroot
  obtain ⟨-, hwalks⟩ := FileTree.locate_eq_ok_iff.mp hlocate
  rw [FileTree.names_joinPath hname.relative, ← FileTree.walk_eq_ok_iff,
    hleft _ (FileTree.names_ne_nil name), FileTree.walk_eq_ok_iff] at hwalks
  obtain ⟨rfl, -⟩ := hwalks.descends hlinks hname.down rfl
  exact hentry

/-- **A directory opens what lies below it and nothing else.**  A name has a path exactly if it is
contained; the path is that of the directory with the names that count, so its place is below.
Only if the directory has an empty path, a `.` at the beginning of the name is a component as well.
What is opened is the file there, a name that would lead out is absent, and without links below the
directory the file is the very entry that the name spells. -/
theorem openName_contained (root name : String) :
    ((locate root name).isSome ↔ FileTree.isRooted name = false ∧ ".." ∉ names name) ∧
    (∀ located, locate root name = some located →
      components located
        = components root ++ leading root name ++ (plainNames (names name)).map .name ∧
      steps located = steps root ++ (plainNames (names name)).map .name ∧
      place (names located) = place (names root) ++ plainNames (names name)) ∧
    ∀ tree : FileTree,
      openName tree name (.directory root)
        = .ok (((locate root name).bind fun located => fileAt tree (names located)).map
            fun bytes => ⟨bytes, none⟩) ∧
      (¬ Contained name → openName tree name (.directory root) = .ok none) ∧
      ∀ location body, tree.stat (names root) = .ok (location, .directory) →
        NoLinksBelow tree location → openName tree name (.directory root) = .ok (some body) →
        body.failure = none ∧
          tree.entry? (location ++ plainNames (names name)) = some (.file body.bytes) := by
  refine ⟨⟨fun hsome => ?_, fun ⟨hrelative, hdown⟩ => ?_⟩, fun located hlocated => ?_, fun tree =>
    ⟨openName_directory tree root name, fun h => openName_of_not_contained h tree root, ?_⟩⟩
  · obtain ⟨located, hlocated⟩ := Option.isSome_iff_exists.mp hsome
    have hname := (locate_eq_some_iff.mp hlocated).1
    exact ⟨hname.relative, hname.down⟩
  · rw [locate_of_contained ⟨hrelative, hdown⟩]
    rfl
  · obtain ⟨hname, rfl⟩ := locate_eq_some_iff.mp hlocated
    exact ⟨FileTree.components_joinPath hname.relative hname.down root,
      FileTree.steps_joinPath hname.relative hname.down root,
      FileTree.place_joinPath hname.relative hname.down root⟩
  · intro location body hroot hlinks hopen
    rw [openName_directory, Except.ok.injEq, Option.map_eq_some_iff] at hopen
    obtain ⟨bytes, hbytes, rfl⟩ := hopen
    obtain ⟨located, hlocated, hfile⟩ := Option.bind_eq_some_iff.mp hbytes
    obtain ⟨hname, rfl⟩ := locate_eq_some_iff.mp hlocated
    exact ⟨rfl, entry?_of_fileAt hroot hlinks hname hfile⟩

/-! ### A directory with a file -/

/-- A file in a directory of resources. -/
def unpackedLib : FileTree :=
  ⟨[(["deps"], .directory), (["deps", "lib"], .directory),
    (["deps", "lib", "a.js"], .file "a".toUTF8)]⟩

theorem linkless_unpackedLib : unpackedLib.Linkless :=
  FileTree.linkless_of_entries fun held hheld => by
    rcases hheld with _ | ⟨_, _ | ⟨_, _ | ⟨_, hheld⟩⟩⟩
    · exact Or.inl rfl
    · exact Or.inl rfl
    · exact Or.inr ⟨_, rfl⟩
    · cases hheld

theorem stat_unpackedLib : unpackedLib.stat (names "deps") = .ok (["deps"], .directory) := by
  have hnames : names "deps" = ["deps"] := by decide
  have hlocate : unpackedLib.locate true ["deps"] = .ok (.found ["deps"]) := by
    simp +decide [FileTree.locate, FileTree.walk, FileTree.entry?, unpackedLib]
  rw [hnames]
  exact FileTree.stat_eq_ok_iff.mpr ⟨hlocate, rfl⟩

/-- Where dots and slashes are repeated, the file is opened all the same. -/
theorem openName_unpackedLib :
    openName unpackedLib "./lib//a.js" (.directory "deps") = .ok (some ⟨"a".toUTF8, none⟩) := by
  have hlocated : locate "deps" "./lib//a.js" = some "deps/./lib//a.js" := by decide
  have hnames : names "deps/./lib//a.js" = ["deps", ".", "lib", "", "a.js"] := by decide
  have hlocate : unpackedLib.locate true ["deps", ".", "lib", "", "a.js"]
      = .ok (.found ["deps", "lib", "a.js"]) := by
    simp +decide [FileTree.locate, FileTree.walk, FileTree.entry?, unpackedLib]
  have hfile : fileAt unpackedLib ["deps", ".", "lib", "", "a.js"] = some "a".toUTF8 :=
    fileAt_eq_some_iff.mpr ⟨_, FileTree.stat_eq_ok_iff.mpr ⟨hlocate, rfl⟩⟩
  rw [openName_directory, hlocated, Option.bind_some, hnames, hfile]
  rfl

/-- A file below the directory is opened, and a name that leads out is absent. -/
theorem openName_contained_unpackedLib :
    locate "deps" "./lib//a.js" = some "deps/./lib//a.js" ∧
      components "deps/./lib//a.js" = components "deps" ++ [.name "lib", .name "a.js"] ∧
      unpackedLib.stat (names "deps") = .ok (["deps"], .directory) ∧
      NoLinksBelow unpackedLib ["deps"] ∧
      openName unpackedLib "./lib//a.js" (.directory "deps") = .ok (some ⟨"a".toUTF8, none⟩) ∧
      unpackedLib.entry? ["deps", "lib", "a.js"] = some (.file "a".toUTF8) ∧
      ¬ Contained "../lib/a.js" ∧
      openName unpackedLib "../lib/a.js" (.directory "deps") = .ok none := by
  have hlocated : locate "deps" "./lib//a.js" = some "deps/./lib//a.js" := by decide
  have hlinks := linkless_unpackedLib.noLinksBelow ["deps"]
  have hescapes : ¬ Contained "../lib/a.js" := by decide
  obtain ⟨-, hpath, hopens⟩ := openName_contained "deps" "./lib//a.js"
  obtain ⟨-, -, hescaping⟩ := openName_contained "deps" "../lib/a.js"
  have hcomponents : components "deps/./lib//a.js" = components "deps" ++ [.name "lib", .name "a.js"] :=
    (hpath _ hlocated).1.trans (by decide)
  exact ⟨hlocated, hcomponents, stat_unpackedLib, hlinks, openName_unpackedLib,
    ((hopens unpackedLib).2.2 _ _ stat_unpackedLib hlinks openName_unpackedLib).2, hescapes,
    (hescaping unpackedLib).2.1 hescapes⟩

/-- Behind an empty path a `.` at the beginning of a name is a component of the path, though it is
none of the names that count. -/
theorem locate_dotted :
    locate "" "./a.js" = some "./a.js" ∧ components "./a.js" = [.here, .name "a.js"] ∧
      components "" ++ (plainNames (names "./a.js")).map .name = [.name "a.js"] := by
  decide

end ModuleLoader.Provider
