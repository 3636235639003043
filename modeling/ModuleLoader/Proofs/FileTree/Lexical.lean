/-
Paths followed in their text alone.

An empty name and `.` stay, `..` leaves the innermost name, and every other name is entered: this
gives the place of a path as it is written (`place`).  In a tree without links a path leads to its
place, and all places on its way are directories (`Walks.asWritten`, `Walks.ways`).

Where directories are made and files are written, one after the other (`Builds`), a tree without
links changes at the places of their paths and nowhere else, what was a directory stays one, and
what was a file stays one (`Builds.built`).
-/
import ModuleLoader.Proofs.FileTree.Write

namespace ModuleLoader.FileTree

variable {tree other third : FileTree} {location here : Location} {entry : FileEntry} {name : String}
  {path : List String} {follow : Bool} {links : Nat} {dest : Destination}

/-! ### The place of a path -/

/-- The place that a name leads to from another place. -/
def stepTo (here : Location) (name : String) : Location :=
  if name = "" ∨ name = "." then here
  else if name = ".." then here.dropLast
  else here ++ [name]

/-- The place of a path from the root. -/
def place (path : List String) : Location := path.foldl stepTo []

theorem stepTo_stay (h : name = "" ∨ name = ".") : stepTo here name = here := if_pos h

theorem stepTo_name (h : Leads name) : stepTo here name = here ++ [name] := by
  unfold stepTo
  rw [if_neg (not_or.mpr ⟨h.nonempty, h.notDot⟩), if_neg h.notUp]

theorem IsName.leads (h : IsName name) : Leads name := ⟨h.nonempty, h.notDot, h.notUp⟩

theorem foldl_stepTo_stay (h : ∀ name ∈ path, name = "" ∨ name = ".") :
    path.foldl stepTo here = here := by
  induction path with
  | nil => rfl
  | cons name rest ih =>
      rw [List.foldl_cons, stepTo_stay (h name List.mem_cons_self)]
      exact ih fun other hother => h other (List.mem_cons_of_mem _ hother)

/-- A name stays, goes up or leads on. -/
theorem name_cases (name : String) : (name = "" ∨ name = ".") ∨ name = ".." ∨ Leads name := by
  by_cases hstay : name = "" ∨ name = "."
  · exact Or.inl hstay
  · obtain ⟨hempty, hdot⟩ := not_or.mp hstay
    by_cases hup : name = ".."
    · exact Or.inr (Or.inl hup)
    · exact Or.inr (Or.inr ⟨hempty, hdot, hup⟩)

theorem plainNames_stay (h : name = "" ∨ name = ".") (path : List String) :
    plainNames (name :: path) = plainNames path :=
  List.filter_cons_of_neg (by simpa using fun hempty => h.resolve_left hempty)

theorem plainNames_up (path : List String) : plainNames (".." :: path) = ".." :: plainNames path :=
  List.filter_cons_of_pos (by decide)

theorem plainNames_cons (h : Leads name) (path : List String) :
    plainNames (name :: path) = name :: plainNames path :=
  List.filter_cons_of_pos (by simpa using ⟨h.nonempty, h.notDot⟩)

/-- Names that do not count lead nowhere. -/
theorem foldl_plainNames (path : List String) :
    ∀ here, (plainNames path).foldl stepTo here = path.foldl stepTo here := by
  induction path with
  | nil => exact fun here => rfl
  | cons name rest ih =>
      intro here
      rcases name_cases name with hstay | rfl | hleads
      · rw [plainNames_stay hstay, List.foldl_cons, stepTo_stay hstay, ih]
      · rw [plainNames_up, List.foldl_cons, List.foldl_cons, ih]
      · rw [plainNames_cons hleads, List.foldl_cons, List.foldl_cons, ih]

theorem place_plainNames (path : List String) : place (plainNames path) = place path :=
  foldl_plainNames path []

theorem place_append (front back : List String) :
    place (front ++ back) = back.foldl stepTo (place front) := List.foldl_append

/-- Without `..` a path goes down by the names that count. -/
theorem foldl_stepTo_down (hup : ".." ∉ path) : ∀ here,
    path.foldl stepTo here = here ++ plainNames path := by
  induction path with
  | nil => exact fun here => (List.append_nil here).symm
  | cons name rest ih =>
      intro here
      obtain ⟨hname, hrest⟩ := not_or.mp (List.mem_cons.not.mp hup)
      rw [List.foldl_cons, ih hrest]
      rcases name_cases name with hstay | rfl | hleads
      · rw [stepTo_stay hstay, plainNames_stay hstay]
      · exact absurd rfl hname
      · rw [stepTo_name hleads, plainNames_cons hleads, List.append_assoc, List.singleton_append]

/-! ### Trees without links -/

/-- No location holds a link. -/
def Linkless (tree : FileTree) : Prop :=
  ∀ location target, tree.entry? location ≠ some (.link target)

theorem linkless_of_entries
    (h : ∀ held ∈ tree.entries, held.2 = .directory ∨ ∃ bytes, held.2 = .file bytes) :
    tree.Linkless := by
  intro location target hlink
  by_cases hroot : location = []
  · rw [hroot] at hlink
    cases hlink
  · have hmem := mem_of_entry? hroot hlink
    rcases h _ hmem with hheld | ⟨bytes, hheld⟩
    · cases hheld
    · cases hheld

theorem Linkless.noLinksBelow (h : tree.Linkless) (location : Location) :
    NoLinksBelow tree location := fun _ _ target => h _ target

/-- Where a path leads if it is followed in its text alone. -/
def Destination.AsWritten (here : Location) (path : List String) : Destination → Prop
  | .found location => location = path.foldl stepTo here
  | .missing location more => ∃ front name, path = front ++ name :: more ∧
      location = (front ++ [name]).foldl stepTo here

theorem Destination.AsWritten.cons (h : dest.AsWritten (stepTo here name) path) :
    dest.AsWritten here (name :: path) := by
  cases dest with
  | found location => exact h
  | missing location more =>
      obtain ⟨front, last, rfl, rfl⟩ := h
      exact ⟨name :: front, last, rfl, rfl⟩

namespace Walks

theorem asWritten (h : Walks tree follow links here path dest) (hlinks : tree.Linkless) :
    dest.AsWritten here path := by
  induction h with
  | done links here => rfl
  | stay hdirectory hname h ih =>
      refine Destination.AsWritten.cons ?_
      rwa [stepTo_stay hname]
  | up hdirectory h ih => exact Destination.AsWritten.cons ih
  | @lack links here name rest hdirectory hname hnone =>
      exact ⟨[], name, rfl, (stepTo_name hname.leads).symm⟩
  | stop hdirectory hname hlink hfollow => exact absurd hlink (hlinks _ _)
  | through hdirectory hname hlink hfollow h ih => exact absurd hlink (hlinks _ _)
  | enter hdirectory hname hentry hplain h ih =>
      refine Destination.AsWritten.cons ?_
      rwa [stepTo_name hname.leads]

/-- All places on the way are directories. -/
def Ways (tree : FileTree) (here : Location) (path : List String) : Prop :=
  ∀ way rest, path = way ++ rest → rest ≠ [] → tree.entry? (way.foldl stepTo here) = some .directory

theorem Ways.cons (hdirectory : tree.entry? here = some .directory)
    (h : Ways tree (stepTo here name) path) : Ways tree here (name :: path) := by
  intro way rest heq hrest
  rcases way with _ | ⟨first, way⟩
  · exact hdirectory
  · obtain ⟨rfl, hpath⟩ := List.cons.inj heq
    exact h way rest hpath hrest

theorem ways_nil (tree : FileTree) (here : Location) : Ways tree here [] := by
  intro way rest heq hrest
  exact absurd (List.append_eq_nil_iff.mp heq.symm).2 hrest

/-- A path that lacks nothing but its last name perhaps leads through directories. -/
theorem ways (h : Walks tree follow links here path dest) (hlinks : tree.Linkless)
    (hwhole : ∀ location more, dest = .missing location more → more = []) : Ways tree here path := by
  induction h with
  | done links here => exact ways_nil tree here
  | stay hdirectory hname h ih =>
      refine Ways.cons hdirectory ?_
      rw [stepTo_stay hname]
      exact ih hwhole
  | up hdirectory h ih => exact Ways.cons hdirectory (ih hwhole)
  | @lack links here name rest hdirectory hname hnone =>
      obtain rfl := hwhole _ _ rfl
      exact Ways.cons hdirectory (ways_nil tree _)
  | stop hdirectory hname hlink hfollow => exact absurd hlink (hlinks _ _)
  | through hdirectory hname hlink hfollow h ih => exact absurd hlink (hlinks _ _)
  | enter hdirectory hname hentry hplain h ih =>
      refine Ways.cons hdirectory ?_
      rw [stepTo_name hname.leads]
      exact ih hwhole

end Walks

theorem ne_nil_of_not_directory (h : tree.entry? location ≠ some .directory) : location ≠ [] := by
  rintro rfl
  exact h rfl

section Linkless

variable (hlinks : tree.Linkless)

include hlinks

/-- A directory is made at the place of its path. -/
theorem makeDirectory_place (h : tree.makeDirectory path = .ok other) :
    tree.entry? (place path) = none ∧ other = tree.put (place path) .directory := by
  obtain ⟨location, more, hlocate, hmore, rfl⟩ := makeDirectory_eq_ok h
  obtain ⟨-, hwalks⟩ := locate_eq_ok_iff.mp hlocate
  obtain ⟨front, name, rfl, hlocation⟩ := hwalks.asWritten hlinks
  have hplace : place (front ++ name :: more) = location := by
    rw [List.append_cons, place_append,
      foldl_stepTo_stay fun other hother => Or.inl (hmore other hother), hlocation]
    rfl
  rw [hplace]
  exact ⟨hwalks.entry?_missing rfl, rfl⟩

/-- A file is written at the place of its path, through directories. -/
theorem write_place {bytes : ByteArray} (h : tree.write path bytes = .ok other) :
    tree.entry? (place path) ≠ some .directory ∧ other = tree.put (place path) (.file bytes) ∧
      Walks.Ways tree [] path := by
  obtain ⟨location, rfl, hcases⟩ := write_eq_ok h
  rcases hcases with hlocate | ⟨hlocate, hentry⟩
  · obtain ⟨-, hwalks⟩ := locate_eq_ok_iff.mp hlocate
    obtain ⟨front, name, rfl, hlocation⟩ := hwalks.asWritten hlinks
    have hplace : location = place (front ++ [name]) := hlocation
    rw [← hplace, hwalks.entry?_missing rfl]
    exact ⟨nofun, rfl, hwalks.ways hlinks (by rintro _ _ ⟨⟩; rfl)⟩
  · obtain ⟨-, hwalks⟩ := locate_eq_ok_iff.mp hlocate
    have hplace : location = place path := hwalks.asWritten hlinks
    rw [← hplace]
    exact ⟨hentry, rfl, hwalks.ways hlinks nofun⟩

end Linkless

/-! ### Directories and files one after the other -/

/-- Directories are made and files are written, each under a path that is allowed. -/
inductive Builds (directories files : List String → Prop) : FileTree → FileTree → Prop
  | done (tree : FileTree) : Builds directories files tree tree
  | directory {tree made after : FileTree} {path : List String} (hpath : directories path)
      (hmake : tree.makeDirectory path = .ok made) (h : Builds directories files made after) :
      Builds directories files tree after
  | file {tree made after : FileTree} {path : List String} {bytes : ByteArray} (hpath : files path)
      (hwrite : tree.write path bytes = .ok made) (h : Builds directories files made after) :
      Builds directories files tree after

variable {directories files : List String → Prop}

theorem Builds.trans (h : Builds directories files tree other)
    (h' : Builds directories files other third) : Builds directories files tree third := by
  induction h with
  | done tree => exact h'
  | directory hpath hmake h ih => exact .directory hpath hmake (ih h')
  | file hpath hwrite h ih => exact .file hpath hwrite (ih h')

theorem makeDirectories_go_builds : ∀ (count : Nat) (tree : FileTree) (path : List String),
    (∀ way, way <+: path → directories way) →
      Builds directories files tree (makeDirectories.go count tree path).1 := by
  intro count
  induction count with
  | zero =>
      intro tree path hways
      unfold makeDirectories.go
      rcases hmake : tree.makeDirectory path with e | other
      · by_cases hmissing : e = .noSuchFile
        · simp only [if_pos hmissing]
          exact .done tree
        · simp only [if_neg hmissing]
          exact .done tree
      · exact .directory (hways path (List.prefix_refl path)) hmake (.done other)
  | succ count ih =>
      intro tree path hways
      have hself := hways path (List.prefix_refl path)
      unfold makeDirectories.go
      rcases hmake : tree.makeDirectory path with e | other
      · by_cases hmissing : e = .noSuchFile
        · simp only [if_pos hmissing]
          have hfront := ih tree path.dropLast fun way hway =>
            hways way (hway.trans (List.dropLast_prefix path))
          rcases hgo : makeDirectories.go count tree path.dropLast with ⟨front, _ | failure⟩
          · rw [hgo] at hfront
            simp only
            rcases hagain : front.makeDirectory path with e | other
            · exact hfront
            · exact hfront.trans (.directory hself hagain (.done other))
          · rw [hgo] at hfront
            exact hfront
        · simp only [if_neg hmissing]
          exact .done tree
      · exact .directory hself hmake (.done other)

/-- Of the directories of a path none is made but under a beginning of it. -/
theorem makeDirectories_builds (tree : FileTree)
    (hways : ∀ way, way <+: plainNames path → directories way) :
    Builds directories files tree (tree.makeDirectories path).1 :=
  makeDirectories_go_builds _ _ _ hways

/-- What has become of a tree without links. -/
structure Built (directories files : List String → Prop) (tree after : FileTree) : Prop where
  linkless : after.Linkless
  /-- What is new is a directory or a file at the place of its path. -/
  origin : ∀ location entry, after.entry? location = some entry →
    tree.entry? location = some entry ∨
      (entry = .directory ∧ ∃ path, directories path ∧ place path = location) ∨
      ((∃ bytes, entry = .file bytes) ∧ ∃ path, files path ∧ place path = location)
  directories : ∀ location, tree.entry? location = some .directory →
    after.entry? location = some .directory
  files : ∀ location bytes, tree.entry? location = some (.file bytes) →
    ∃ bytes, after.entry? location = some (.file bytes)

namespace Built

theorem refl (hlinks : tree.Linkless) : Built directories files tree tree :=
  ⟨hlinks, fun _ _ hentry => Or.inl hentry, fun _ hentry => hentry, fun _ bytes hentry =>
    ⟨bytes, hentry⟩⟩

theorem trans (h : Built directories files tree other) (h' : Built directories files other third) :
    Built directories files tree third := by
  refine ⟨h'.linkless, fun location entry hentry => ?_, fun location hentry =>
    h'.directories location (h.directories location hentry), fun location bytes hentry => ?_⟩
  · rcases h'.origin location entry hentry with hentry | hnew
    · exact h.origin location entry hentry
    · exact Or.inr hnew
  · obtain ⟨bytes, hentry⟩ := h.files location bytes hentry
    exact h'.files location bytes hentry

/-- Something other than a link is put where no directory is. -/
theorem put (hlinks : tree.Linkless) (hfree : tree.entry? location ≠ some .directory)
    (hnew : (entry = .directory ∧ tree.entry? location = none ∧
        ∃ path, directories path ∧ place path = location) ∨
      ((∃ bytes, entry = .file bytes) ∧ ∃ path, files path ∧ place path = location)) :
    Built directories files tree (tree.put location entry) := by
  have hself : FileTree.entry? (tree.put location entry) location = some entry :=
    entry?_put_self (ne_nil_of_not_directory hfree) entry
  refine ⟨fun place target hlink => ?_, fun place held hheld => ?_, fun place hheld => ?_,
    fun place bytes hheld => ?_⟩
  · by_cases hplace : place = location
    · rw [hplace, hself] at hlink
      rcases hnew with ⟨rfl, -, -⟩ | ⟨⟨bytes, rfl⟩, -⟩
      · cases hlink
      · cases hlink
    · rw [entry?_put_of_ne hplace] at hlink
      exact hlinks _ _ hlink
  · by_cases hplace : place = location
    · rw [hplace, hself] at hheld
      obtain rfl := Option.some.inj hheld
      rw [hplace]
      rcases hnew with ⟨hentry, -, hpath⟩ | hfile
      · exact Or.inr (Or.inl ⟨hentry, hpath⟩)
      · exact Or.inr (Or.inr hfile)
    · rw [entry?_put_of_ne hplace] at hheld
      exact Or.inl hheld
  · have hplace : place ≠ location := by
      rintro rfl
      exact hfree hheld
    rw [entry?_put_of_ne hplace, hheld]
  · by_cases hplace : place = location
    · rcases hnew with ⟨-, hnone, -⟩ | ⟨⟨new, rfl⟩, -⟩
      · rw [hplace, hnone] at hheld
        cases hheld
      · exact ⟨new, by rw [hplace, hself]⟩
    · exact ⟨bytes, by rw [entry?_put_of_ne hplace, hheld]⟩

end Built

theorem Builds.built (h : Builds directories files tree other) (hlinks : tree.Linkless) :
    Built directories files tree other := by
  induction h with
  | done tree => exact .refl hlinks
  | @directory tree made after path hpath hmake h ih =>
      obtain ⟨hnone, rfl⟩ := makeDirectory_place hlinks hmake
      have hstep : Built directories files tree (tree.put (place path) .directory) :=
        .put hlinks (by rw [hnone]; exact nofun) (Or.inl ⟨rfl, hnone, path, hpath, rfl⟩)
      exact hstep.trans (ih hstep.linkless)
  | @file tree made after path bytes hpath hwrite h ih =>
      obtain ⟨hfree, rfl, -⟩ := write_place hlinks hwrite
      have hstep : Built directories files tree (tree.put (place path) (.file bytes)) :=
        .put hlinks hfree (Or.inr ⟨⟨bytes, rfl⟩, path, hpath, rfl⟩)
      exact hstep.trans (ih hstep.linkless)

end ModuleLoader.FileTree
