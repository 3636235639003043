/-
What writing to a tree leaves of it.

Making directories keeps every entry and adds directories only (`MakesDirectories`), whether or not
all of them could be made.  Writing a file puts it at one location, which was missing or held
something else than a directory (`write_eq_ok`).  So what a path leads to stays where it is as long
as nothing is overwritten (`stat_of_extends`).
-/
import ModuleLoader.Proofs.FileTree.Walk

namespace ModuleLoader.FileTree

variable {tree other third : FileTree} {location : Location} {entry : FileEntry}
  {follow : Bool} {path : List String} {dest : Destination}

/-! ### Paths that lead somewhere -/

/-- No name of the path holds a zero character, and the path is not too long. -/
structure Allowed (path : List String) : Prop where
  noZero : (path.any fun name => name.toList.contains '\x00') = false
  short : writtenLength path ≤ pathLimit

theorem locate_eq_ok_iff :
    tree.locate follow path = .ok dest ↔ Allowed path ∧ Walks tree follow linkLimit [] path dest := by
  unfold locate
  rw [← walk_eq_ok_iff]
  constructor
  · intro h
    split at h
    · cases h
    · next hzero =>
      split at h
      · cases h
      · next hlong => exact ⟨⟨Bool.eq_false_iff.mpr hzero, Nat.le_of_not_gt hlong⟩, h⟩
  · rintro ⟨hallowed, h⟩
    rw [if_neg (Bool.eq_false_iff.mp hallowed.noZero), if_neg (Nat.not_lt.mpr hallowed.short), h]

theorem stat_eq_ok_iff :
    tree.stat path = .ok (location, entry) ↔
      tree.locate true path = .ok (.found location) ∧ tree.entry? location = some entry := by
  unfold stat
  constructor
  · intro h
    rcases hlocate : tree.locate true path with e | place | ⟨place, more⟩
    · rw [hlocate] at h
      cases h
    · rw [hlocate] at h
      rcases hentry : tree.entry? place with _ | held
      · simp only [hentry] at h
        cases h
      · simp only [hentry] at h
        cases h
        exact ⟨rfl, hentry⟩
    · rw [hlocate] at h
      cases h
  · rintro ⟨hlocate, hentry⟩
    simp only [hlocate, hentry]

/-- What a path leads to stays in a tree with more entries. -/
theorem stat_of_extends (hextends : Extends tree other) (h : tree.stat path = .ok (location, entry)) :
    other.stat path = .ok (location, entry) := by
  obtain ⟨hlocate, hentry⟩ := stat_eq_ok_iff.mp h
  obtain ⟨hallowed, hwalks⟩ := locate_eq_ok_iff.mp hlocate
  exact stat_eq_ok_iff.mpr
    ⟨locate_eq_ok_iff.mpr ⟨hallowed, hwalks.mono hextends ⟨location, rfl⟩⟩, hextends _ _ hentry⟩

/-! ### Directories -/

/-- Only directories are added. -/
structure MakesDirectories (tree other : FileTree) : Prop where
  keeps : Extends tree other
  adds : ∀ held ∈ other.entries, held ∈ tree.entries ∨ held.2 = .directory

theorem MakesDirectories.refl (tree : FileTree) : MakesDirectories tree tree :=
  ⟨Extends.refl tree, fun _ hheld => Or.inl hheld⟩

theorem MakesDirectories.trans (h : MakesDirectories tree other) (h' : MakesDirectories other third) :
    MakesDirectories tree third := by
  refine ⟨h.keeps.trans h'.keeps, fun held hheld => ?_⟩
  rcases h'.adds held hheld with hheld | hdirectory
  · exact h.adds held hheld
  · exact Or.inr hdirectory

theorem mem_put {held : Location × FileEntry} (h : held ∈ (tree.put location entry).entries) :
    held ∈ tree.entries ∨ held = (location, entry) := by
  rcases List.mem_append.mp h with h | h
  · exact Or.inl (List.mem_filter.mp h).1
  · exact Or.inr (List.mem_singleton.mp h)

/-- A directory that is made stands where the path leads, and nothing was there before. -/
theorem makeDirectory_eq_ok (h : tree.makeDirectory path = .ok other) :
    ∃ location more, tree.locate false path = .ok (.missing location more) ∧
      (∀ name ∈ more, name = "") ∧ other = tree.put location .directory := by
  unfold makeDirectory at h
  rcases hlocate : tree.locate false path with e | place | ⟨place, more⟩
  · rw [hlocate] at h
    cases h
  · rw [hlocate] at h
    cases h
  · simp only [hlocate] at h
    split at h
    · next hmore => exact ⟨place, more, rfl, by simpa using hmore, (Except.ok.inj h).symm⟩
    · cases h

theorem makeDirectory_makes (h : tree.makeDirectory path = .ok other) :
    MakesDirectories tree other := by
  obtain ⟨location, more, hlocate, -, rfl⟩ := makeDirectory_eq_ok h
  have hnone := (locate_eq_ok_iff.mp hlocate).2.entry?_missing rfl
  refine ⟨extends_put hnone .directory, fun held hheld => ?_⟩
  rcases mem_put hheld with hheld | rfl
  · exact Or.inl hheld
  · exact Or.inr rfl

theorem makeDirectories_go_makes : ∀ (count : Nat) (tree : FileTree) (path : List String),
    MakesDirectories tree (makeDirectories.go count tree path).1 := by
  intro count
  induction count with
  | zero =>
      intro tree path
      unfold makeDirectories.go
      rcases hmake : tree.makeDirectory path with e | other
      · by_cases hmissing : e = .noSuchFile
        · simp only [if_pos hmissing]
          exact .refl tree
        · simp only [if_neg hmissing]
          exact .refl tree
      · exact makeDirectory_makes hmake
  | succ count ih =>
      intro tree path
      unfold makeDirectories.go
      rcases hmake : tree.makeDirectory path with e | other
      · by_cases hmissing : e = .noSuchFile
        · simp only [if_pos hmissing]
          have hfront := ih tree path.dropLast
          rcases hgo : makeDirectories.go count tree path.dropLast with ⟨front, _ | failure⟩
          · rw [hgo] at hfront
            simp only
            rcases hagain : front.makeDirectory path with e | other
            · exact hfront
            · exact hfront.trans (makeDirectory_makes hagain)
          · rw [hgo] at hfront
            exact hfront
        · simp only [if_neg hmissing]
          exact .refl tree
      · exact makeDirectory_makes hmake

/-- Making the directories of a path adds directories only. -/
theorem makeDirectories_makes (tree : FileTree) (path : List String) :
    MakesDirectories tree (tree.makeDirectories path).1 :=
  makeDirectories_go_makes _ _ _

/-! ### Files -/

/-- A file that is written stands where the path leads. -/
theorem write_eq_ok {bytes : ByteArray} (h : tree.write path bytes = .ok other) :
    ∃ location, other = tree.put location (.file bytes) ∧
      (tree.locate true path = .ok (.missing location []) ∨
        (tree.locate true path = .ok (.found location) ∧
          tree.entry? location ≠ some .directory)) := by
  unfold write at h
  rcases hlocate : tree.locate true path with e | place | ⟨place, more⟩
  · rw [hlocate] at h
    cases h
  · simp only [hlocate] at h
    split at h
    · cases h
    · next hentry => exact ⟨place, (Except.ok.inj h).symm, Or.inr ⟨rfl, hentry⟩⟩
  · simp only [hlocate] at h
    split at h
    · next hmore =>
      subst hmore
      exact ⟨place, (Except.ok.inj h).symm, Or.inl rfl⟩
    · split at h <;> cases h

end ModuleLoader.FileTree
