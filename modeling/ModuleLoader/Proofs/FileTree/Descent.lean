/-
Paths that only go down.

Below a location without links, a path that does not go up leads straight down by its plain names.
What it finds lies there (`Walks.descends`), and what lies there is found (`walks_down`), unless a
name is too long or the path ends in an empty name or `.`: such a path finds directories only
(`Walks.dropStay`).

A path that is joined to another is followed from where that one leads (`locate_joinPath`).
-/
import ModuleLoader.Proofs.FileTree.Component

namespace ModuleLoader.FileTree

variable {tree : FileTree} {location here : Location} {entry : FileEntry} {links : Nat}
  {path front : List String} {dest : Destination} {name : String} {follow : Bool}

/-! ### Following a path down -/

theorem NoLinksBelow.enter (h : NoLinksBelow tree here) (name : String) :
    NoLinksBelow tree (here ++ [name]) := by
  intro names _ target
  rw [List.append_assoc]
  exact h _ (List.cons_ne_nil _ _) target

namespace Walks

/-- An empty name or `.` at the end asks for a directory. -/
theorem dropStay (h : Walks tree true links here path dest) :
    ∀ {front : List String}, path = front ++ [name] → (name = "" ∨ name = ".") →
      dest = .found location →
      Walks tree true links here front (.found location) ∧ tree.entry? location = some .directory := by
  induction h with
  | done links here =>
      intro front hpath _ _
      exact absurd hpath.symm (List.append_ne_nil_of_right_ne_nil _ (List.cons_ne_nil _ _))
  | @stay links here first rest dest hdirectory hfirst h ih =>
      intro front hpath hname hfound
      rcases front with _ | ⟨second, front⟩
      · obtain ⟨rfl, rfl⟩ := List.cons.inj hpath
        subst hfound
        cases h
        exact ⟨.done _ _, hdirectory⟩
      · obtain ⟨rfl, hrest⟩ := List.cons.inj hpath
        obtain ⟨hwalks, hentry⟩ := ih hrest hname hfound
        exact ⟨.stay hdirectory hfirst hwalks, hentry⟩
  | up hdirectory h ih =>
      intro front hpath hname hfound
      rcases front with _ | ⟨second, front⟩
      · obtain ⟨rfl, -⟩ := List.cons.inj hpath
        exact absurd hname (by decide)
      · obtain ⟨rfl, hrest⟩ := List.cons.inj hpath
        obtain ⟨hwalks, hentry⟩ := ih hrest hname hfound
        exact ⟨.up hdirectory hwalks, hentry⟩
  | lack hdirectory hfirst hnone => exact fun _ _ => nofun
  | stop hdirectory hfirst hlink hfollow => cases hfollow
  | through hdirectory hfirst hlink hfollow h ih =>
      intro front hpath hname hfound
      rcases front with _ | ⟨second, front⟩
      · obtain ⟨rfl, -⟩ := List.cons.inj hpath
        exact (hname.elim hfirst.nonempty hfirst.notDot).elim
      · obtain ⟨rfl, hrest⟩ := List.cons.inj hpath
        obtain ⟨hwalks, hentry⟩ :=
          ih ((congrArg _ hrest).trans (List.append_assoc _ _ _).symm) hname hfound
        exact ⟨.through hdirectory hfirst hlink (by simp) hwalks, hentry⟩
  | enter hdirectory hfirst hheld hplain h ih =>
      intro front hpath hname hfound
      rcases front with _ | ⟨second, front⟩
      · obtain ⟨rfl, -⟩ := List.cons.inj hpath
        exact (hname.elim hfirst.nonempty hfirst.notDot).elim
      · obtain ⟨rfl, hrest⟩ := List.cons.inj hpath
        obtain ⟨hwalks, hentry⟩ := ih hrest hname hfound
        exact ⟨.enter hdirectory hfirst hheld hplain hwalks, hentry⟩

/-- What a path finds lies below by the names that count, none of them too long. -/
theorem descends (h : Walks tree follow links here path dest) (hlinks : NoLinksBelow tree here)
    (hup : ".." ∉ path) (hfound : dest = .found location) :
    location = here ++ plainNames path ∧ ∀ name ∈ plainNames path, IsName name := by
  induction h with
  | done links here =>
      cases hfound
      exact ⟨(List.append_nil _).symm, nofun⟩
  | stay hdirectory hname h ih =>
      rw [plainNames_stay hname]
      exact ih hlinks (fun hmem => hup (List.mem_cons_of_mem _ hmem)) hfound
  | up hdirectory h ih => exact absurd List.mem_cons_self hup
  | lack hdirectory hname hnone => cases hfound
  | stop hdirectory hname hlink hfollow => exact absurd hlink (hlinks _ (by simp) _)
  | through hdirectory hname hlink hfollow h ih => exact absurd hlink (hlinks _ (by simp) _)
  | enter hdirectory hname hentry hplain h ih =>
      obtain ⟨hlocation, hnames⟩ :=
        ih (hlinks.enter _) (fun hmem => hup (List.mem_cons_of_mem _ hmem)) hfound
      rw [plainNames_cons hname.leads]
      refine ⟨by rw [hlocation, List.append_assoc]; rfl, fun other hother => ?_⟩
      rcases List.mem_cons.mp hother with rfl | hother
      · exact hname
      · exact hnames other hother

end Walks

/-- The last name counts. -/
def EndsInName (path : List String) : Prop := ∀ name, path.getLast? = some name → Leads name

theorem EndsInName.tail (h : EndsInName (name :: path)) : EndsInName path := by
  intro last hlast
  refine h last ?_
  rw [List.getLast?_cons, hlast]
  rfl

theorem EndsInName.plainNames_ne_nil (h : EndsInName path) (hne : path ≠ []) :
    plainNames path ≠ [] := by
  have hleads := h _ (List.getLast?_eq_getLast_of_ne_nil hne)
  exact List.ne_nil_of_mem
    (List.mem_filter.mpr ⟨List.getLast_mem hne, by simpa using ⟨hleads.nonempty, hleads.notDot⟩⟩)

/-- What lies below is found, if directories lead to it. -/
theorem walks_down (follow : Bool) (links : Nat) : ∀ {path : List String} {here : Location},
    ".." ∉ path → EndsInName path → (∀ name ∈ plainNames path, IsName name) →
    (∀ way, way <+: plainNames path → way ≠ plainNames path →
      tree.entry? (here ++ way) = some .directory) →
    tree.entry? (here ++ plainNames path) = some entry → (∀ target, entry ≠ .link target) →
    Walks tree follow links here path (.found (here ++ plainNames path)) := by
  intro path
  induction path with
  | nil =>
      intro here _ _ _ _ _ _
      have hnil : here ++ plainNames [] = here := List.append_nil here
      rw [hnil]
      exact .done links here
  | cons name rest ih =>
      intro here hup hends hnames hways hentry hplain
      obtain ⟨hname, hrest⟩ := not_or.mp (List.mem_cons.not.mp hup)
      have hdirectory : tree.entry? here = some .directory := by
        have hfirst := hways [] List.nil_prefix
          (Ne.symm (hends.plainNames_ne_nil (List.cons_ne_nil _ _)))
        rwa [List.append_nil] at hfirst
      rcases name_cases name with hstay | rfl | hleads
      · rw [plainNames_stay hstay] at hnames hways hentry ⊢
        exact .stay hdirectory hstay (ih hrest hends.tail hnames hways hentry hplain)
      · exact absurd rfl hname
      · rw [plainNames_cons hleads] at hnames hways hentry ⊢
        rw [List.append_cons] at hentry ⊢
        have hinner := ih hrest hends.tail
          (fun other hother => hnames other (List.mem_cons_of_mem _ hother))
          (fun way hway hne => by
            rw [← List.append_cons]
            exact hways (name :: way) ((List.prefix_cons_inj name).mpr hway) (by simpa using hne))
          hentry hplain
        have hnext : ∃ held, tree.entry? (here ++ [name]) = some held ∧
            ∀ target, held ≠ .link target := by
          by_cases hlast : plainNames rest = []
          · rw [hlast, List.append_nil] at hentry
            exact ⟨entry, hentry, hplain⟩
          · exact ⟨.directory, hways [name] ((List.prefix_cons_inj name).mpr List.nil_prefix)
              (by simpa using Ne.symm hlast), nofun⟩
        obtain ⟨held, hheld, hnolink⟩ := hnext
        exact .enter hdirectory (hnames name List.mem_cons_self) hheld hnolink hinner

/-! ### Following a joined path -/

/-- A path that is put behind another is followed from where that one leads. -/
theorem walk_ahead {root : String} (h : Walks tree true links here (names root) (.found location)) :
    ∃ left, ∀ more, more ≠ [] →
      tree.walk true links here (ahead root ++ more) = tree.walk true left location more := by
  rcases names_eq_ahead root with hnames | hnames
  · rw [hnames] at h
    exact h.walk_append rfl
  · rw [hnames] at h
    exact (h.dropStay rfl (Or.inl rfl) rfl).1.walk_append rfl

end ModuleLoader.FileTree
