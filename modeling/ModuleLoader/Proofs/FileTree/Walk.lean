/-
Following paths in a tree that grows.

A path that leads somewhere is followed by a few rules (`Walks`), one for each way to go on.  What
is found this way is found in every tree that has more entries (`Walks.mono`); a path is followed
by its beginning and then from where that leads (`Walks.walk_append`); and below a location without
links, plain names lead straight down (`Walks.straight`).
-/
import Mathlib
import ModuleLoader.FileTree

namespace ModuleLoader.FileTree

variable {tree other : FileTree} {location : Location} {entry : FileEntry}

/-! ### Entries -/

theorem entry?_of_ne_nil (h : location ≠ []) : tree.entry? location = tree.entries.lookup location :=
  if_neg h

theorem mem_of_entry? (hne : location ≠ []) (h : tree.entry? location = some entry) :
    (location, entry) ∈ tree.entries := by
  rw [entry?_of_ne_nil hne] at h
  obtain ⟨before, after, heq, -⟩ := List.lookup_eq_some_iff.mp h
  rw [heq]
  exact List.mem_append_right _ List.mem_cons_self

theorem entry?_put_self (hne : location ≠ []) (entry : FileEntry) :
    FileTree.entry? (tree.put location entry) location = some entry := by
  have hlookup : List.lookup location (tree.entries.filter fun e => e.1 ≠ location) = none := by
    rw [List.lookup_eq_none_iff]
    intro e he
    have hdiffers : e.1 ≠ location := of_decide_eq_true (List.mem_filter.mp he).2
    simpa using Ne.symm hdiffers
  rw [entry?_of_ne_nil hne]
  show List.lookup location ((tree.entries.filter fun e => e.1 ≠ location) ++ [(location, entry)]) = _
  rw [List.lookup_append, hlookup, List.lookup_cons_self]
  rfl

theorem lookup_filter_ne {place : Location} (h : place ≠ location)
    (entries : List (Location × FileEntry)) :
    List.lookup place (entries.filter fun e => e.1 ≠ location) = List.lookup place entries := by
  induction entries with
  | nil => rfl
  | cons first rest ih =>
      by_cases hfirst : first.1 = location
      · have hkey : (place == first.1) = false := by
          rw [hfirst]
          exact beq_eq_false_iff_ne.mpr h
        rw [List.filter_cons_of_neg (by simpa using hfirst), ih, List.lookup_cons, hkey]
      · rw [List.filter_cons_of_pos (by simpa using hfirst), List.lookup_cons, List.lookup_cons, ih]

theorem entry?_put_of_ne {place : Location} (h : place ≠ location) (entry : FileEntry) :
    FileTree.entry? (tree.put location entry) place = tree.entry? place := by
  by_cases hroot : place = []
  · rw [hroot]
    rfl
  · rw [entry?_of_ne_nil hroot, entry?_of_ne_nil hroot]
    show List.lookup place ((tree.entries.filter fun e => e.1 ≠ location) ++ [(location, entry)]) = _
    have hkey : (place == location) = false := beq_eq_false_iff_ne.mpr h
    rw [List.lookup_append, lookup_filter_ne h, List.lookup_cons, hkey]
    simp

/-- Every entry of a tree is one of the other. -/
def Extends (tree other : FileTree) : Prop :=
  ∀ location entry, tree.entry? location = some entry → other.entry? location = some entry

theorem Extends.refl (tree : FileTree) : Extends tree tree := fun _ _ h => h

theorem Extends.trans {third : FileTree} (h : Extends tree other) (h' : Extends other third) :
    Extends tree third := fun location entry hentry => h' location entry (h location entry hentry)

theorem extends_put (h : tree.entry? location = none) (entry : FileEntry) :
    Extends tree (tree.put location entry) := by
  intro place held hheld
  have hne : place ≠ location := by
    rintro rfl
    rw [h] at hheld
    cases hheld
  rw [entry?_put_of_ne hne, hheld]

/-! ### The rules of following a path -/

/-- A name that leads on, and not too long for one. -/
structure IsName (name : String) : Prop where
  nonempty : name ≠ ""
  notDot : name ≠ "."
  notUp : name ≠ ".."
  short : name.utf8ByteSize ≤ nameLimit

section Rules

variable {follow : Bool} {links : Nat} {here : Location} {name target : String} {rest : List String}
  (hdirectory : tree.entry? here = some .directory)

include hdirectory

theorem walk_stay (hname : name = "" ∨ name = ".") :
    tree.walk follow links here (name :: rest) = tree.walk follow links here rest := by
  rw [walk, if_neg (not_not.mpr hdirectory), if_pos hname]

theorem walk_up :
    tree.walk follow links here (".." :: rest) = tree.walk follow links here.dropLast rest := by
  rw [walk, if_neg (not_not.mpr hdirectory), if_neg (by decide), if_pos rfl]

variable (hname : IsName name)

include hname

theorem walk_lack (hnone : tree.entry? (here ++ [name]) = none) :
    tree.walk follow links here (name :: rest) = .ok (.missing (here ++ [name]) rest) := by
  rw [walk, if_neg (not_not.mpr hdirectory), if_neg (not_or.mpr ⟨hname.nonempty, hname.notDot⟩),
    if_neg hname.notUp, if_neg (Nat.not_lt.mpr hname.short), hnone]

theorem walk_stop (hlink : tree.entry? (here ++ [name]) = some (.link target))
    (hfollow : follow = false) :
    tree.walk follow links here [name] = .ok (.found (here ++ [name])) := by
  rw [walk, if_neg (not_not.mpr hdirectory), if_neg (not_or.mpr ⟨hname.nonempty, hname.notDot⟩),
    if_neg hname.notUp, if_neg (Nat.not_lt.mpr hname.short), hlink]
  simp [hfollow]

theorem walk_through (hlink : tree.entry? (here ++ [name]) = some (.link target))
    (hfollow : ¬ (rest = [] ∧ follow = false)) :
    tree.walk follow (links + 1) here (name :: rest)
      = tree.walk follow links (if isRooted target then [] else here) (names target ++ rest) := by
  rw [walk, if_neg (not_not.mpr hdirectory), if_neg (not_or.mpr ⟨hname.nonempty, hname.notDot⟩),
    if_neg hname.notUp, if_neg (Nat.not_lt.mpr hname.short), hlink]
  exact if_neg (by simpa using hfollow)

theorem walk_enter (hentry : tree.entry? (here ++ [name]) = some entry)
    (hplain : ∀ target, entry ≠ .link target) :
    tree.walk follow links here (name :: rest) = tree.walk follow links (here ++ [name]) rest := by
  rw [walk, if_neg (not_not.mpr hdirectory), if_neg (not_or.mpr ⟨hname.nonempty, hname.notDot⟩),
    if_neg hname.notUp, if_neg (Nat.not_lt.mpr hname.short), hentry]
  cases entry with
  | file bytes => rfl
  | directory => rfl
  | link target => exact absurd rfl (hplain target)

end Rules

/-- Where a path leads, rule by rule. -/
inductive Walks (tree : FileTree) (follow : Bool) :
    Nat → Location → List String → Destination → Prop
  | done (links : Nat) (here : Location) : Walks tree follow links here [] (.found here)
  /-- An empty name and `.` stay. -/
  | stay {links : Nat} {here : Location} {name : String} {rest : List String} {dest : Destination}
      (hdirectory : tree.entry? here = some .directory) (hname : name = "" ∨ name = ".")
      (h : Walks tree follow links here rest dest) :
      Walks tree follow links here (name :: rest) dest
  | up {links : Nat} {here : Location} {rest : List String} {dest : Destination}
      (hdirectory : tree.entry? here = some .directory)
      (h : Walks tree follow links here.dropLast rest dest) :
      Walks tree follow links here (".." :: rest) dest
  /-- A directory may lack the name. -/
  | lack {links : Nat} {here : Location} {name : String} {rest : List String}
      (hdirectory : tree.entry? here = some .directory) (hname : IsName name)
      (hnone : tree.entry? (here ++ [name]) = none) :
      Walks tree follow links here (name :: rest) (.missing (here ++ [name]) rest)
  /-- A link at the end need not be followed. -/
  | stop {links : Nat} {here : Location} {name target : String}
      (hdirectory : tree.entry? here = some .directory) (hname : IsName name)
      (hlink : tree.entry? (here ++ [name]) = some (.link target)) (hfollow : follow = false) :
      Walks tree follow links here [name] (.found (here ++ [name]))
  | through {links : Nat} {here : Location} {name target : String} {rest : List String}
      {dest : Destination} (hdirectory : tree.entry? here = some .directory) (hname : IsName name)
      (hlink : tree.entry? (here ++ [name]) = some (.link target))
      (hfollow : ¬ (rest = [] ∧ follow = false))
      (h : Walks tree follow links (if isRooted target then [] else here) (names target ++ rest) dest) :
      Walks tree follow (links + 1) here (name :: rest) dest
  | enter {links : Nat} {here : Location} {name : String} {rest : List String} {dest : Destination}
      {entry : FileEntry} (hdirectory : tree.entry? here = some .directory) (hname : IsName name)
      (hentry : tree.entry? (here ++ [name]) = some entry) (hplain : ∀ target, entry ≠ .link target)
      (h : Walks tree follow links (here ++ [name]) rest dest) :
      Walks tree follow links here (name :: rest) dest

variable {follow : Bool} {links : Nat} {here : Location} {path : List String} {dest : Destination}

theorem walks_of_walk : ∀ {dest : Destination}, tree.walk follow links here path = .ok dest →
    Walks tree follow links here path dest := by
  fun_induction walk tree follow links here path with
  | case1 links here =>
      intro dest h
      obtain rfl := Except.ok.inj h
      exact .done links here
  | case2 links here name rest hdirectory => exact nofun
  | case3 links here name rest hdirectory hname ih =>
      exact fun h => .stay (not_not.mp hdirectory) hname (ih h)
  | case4 links here rest hdirectory hname ih => exact fun h => .up (not_not.mp hdirectory) (ih h)
  | case5 links here name rest hdirectory hname hup hlong => exact nofun
  | case6 links here name rest hdirectory hname hup hshort hnone =>
      intro dest h
      obtain rfl := Except.ok.inj h
      obtain ⟨hempty, hdot⟩ := not_or.mp hname
      exact .lack (not_not.mp hdirectory) ⟨hempty, hdot, hup, Nat.le_of_not_gt hshort⟩ hnone
  | case7 links here name rest hdirectory hname hup hshort target hlink hlast =>
      intro dest h
      obtain rfl := Except.ok.inj h
      obtain ⟨rfl, hfollow⟩ := hlast
      obtain ⟨hempty, hdot⟩ := not_or.mp hname
      exact .stop (not_not.mp hdirectory) ⟨hempty, hdot, hup, Nat.le_of_not_gt hshort⟩ hlink
        (by simpa using hfollow)
  | case8 here name rest hdirectory hname hup hshort target hlink hlast => exact nofun
  | case9 here name rest hdirectory hname hup hshort target hlink hlast links ih =>
      intro dest h
      obtain ⟨hempty, hdot⟩ := not_or.mp hname
      exact .through (not_not.mp hdirectory) ⟨hempty, hdot, hup, Nat.le_of_not_gt hshort⟩ hlink
        (by simpa using hlast) (ih h)
  | case10 links here name rest hdirectory hname hup hshort entry hplain hentry ih =>
      intro dest h
      obtain ⟨hempty, hdot⟩ := not_or.mp hname
      exact .enter (not_not.mp hdirectory) ⟨hempty, hdot, hup, Nat.le_of_not_gt hshort⟩ hentry
        (fun target heq => hplain target heq) (ih h)

theorem Walks.walk_eq (h : Walks tree follow links here path dest) :
    tree.walk follow links here path = .ok dest := by
  induction h with
  | done links here => rw [walk]
  | stay hdirectory hname h ih => rw [walk_stay hdirectory hname, ih]
  | up hdirectory h ih => rw [walk_up hdirectory, ih]
  | lack hdirectory hname hnone => exact walk_lack hdirectory hname hnone
  | stop hdirectory hname hlink hfollow => exact walk_stop hdirectory hname hlink hfollow
  | through hdirectory hname hlink hfollow h ih =>
      rw [walk_through hdirectory hname hlink hfollow, ih]
  | enter hdirectory hname hentry hplain h ih =>
      rw [walk_enter hdirectory hname hentry hplain, ih]

/-- A path leads where the rules say. -/
theorem walk_eq_ok_iff :
    tree.walk follow links here path = .ok dest ↔ Walks tree follow links here path dest :=
  ⟨walks_of_walk, Walks.walk_eq⟩

namespace Walks

/-- What is found is found in every tree with more entries. -/
theorem mono (hextends : Extends tree other) (h : Walks tree follow links here path dest)
    (hfound : ∃ location, dest = .found location) : Walks other follow links here path dest := by
  induction h with
  | done links here => exact .done links here
  | stay hdirectory hname h ih => exact .stay (hextends _ _ hdirectory) hname (ih hfound)
  | up hdirectory h ih => exact .up (hextends _ _ hdirectory) (ih hfound)
  | lack hdirectory hname hnone =>
      obtain ⟨location, heq⟩ := hfound
      cases heq
  | stop hdirectory hname hlink hfollow =>
      exact .stop (hextends _ _ hdirectory) hname (hextends _ _ hlink) hfollow
  | through hdirectory hname hlink hfollow h ih =>
      exact .through (hextends _ _ hdirectory) hname (hextends _ _ hlink) hfollow (ih hfound)
  | enter hdirectory hname hentry hplain h ih =>
      exact .enter (hextends _ _ hdirectory) hname (hextends _ _ hentry) hplain (ih hfound)

/-- What lies behind a path is followed from where the path leads. -/
theorem walk_append (h : Walks tree true links here path dest) (hfound : dest = .found location) :
    ∃ left, ∀ more, more ≠ [] →
      tree.walk follow links here (path ++ more) = tree.walk follow left location more := by
  induction h with
  | done links here =>
      cases hfound
      exact ⟨links, fun more _ => rfl⟩
  | stay hdirectory hname h ih =>
      obtain ⟨left, hleft⟩ := ih hfound
      refine ⟨left, fun more hmore => ?_⟩
      rw [List.cons_append, walk_stay hdirectory hname, hleft more hmore]
  | up hdirectory h ih =>
      obtain ⟨left, hleft⟩ := ih hfound
      refine ⟨left, fun more hmore => ?_⟩
      rw [List.cons_append, walk_up hdirectory, hleft more hmore]
  | lack hdirectory hname hnone => cases hfound
  | stop hdirectory hname hlink hfollow => cases hfollow
  | through hdirectory hname hlink hfollow h ih =>
      obtain ⟨left, hleft⟩ := ih hfound
      refine ⟨left, fun more hmore => ?_⟩
      have hnot : ∀ rest : List String, ¬ (rest ++ more = [] ∧ follow = false) := fun rest hboth =>
        hmore (List.append_eq_nil_iff.mp hboth.1).2
      rw [List.cons_append, walk_through hdirectory hname hlink (hnot _), ← List.append_assoc,
        hleft more hmore]
  | enter hdirectory hname hentry hplain h ih =>
      obtain ⟨left, hleft⟩ := ih hfound
      refine ⟨left, fun more hmore => ?_⟩
      rw [List.cons_append, walk_enter hdirectory hname hentry hplain, hleft more hmore]

/-- What is missing is no entry. -/
theorem entry?_missing (h : Walks tree follow links here path dest) {more : List String}
    (hmissing : dest = .missing location more) : tree.entry? location = none := by
  induction h with
  | done links here => cases hmissing
  | stay hdirectory hname h ih => exact ih hmissing
  | up hdirectory h ih => exact ih hmissing
  | lack hdirectory hname hnone =>
      cases hmissing
      exact hnone
  | stop hdirectory hname hlink hfollow => cases hmissing
  | through hdirectory hname hlink hfollow h ih => exact ih hmissing
  | enter hdirectory hname hentry hplain h ih => exact ih hmissing

/-- What is missing is found once it has been put there. -/
theorem put (hplain : ∀ target, entry ≠ .link target) (h : Walks tree follow links here path dest)
    (hmissing : dest = .missing location []) :
    Walks (tree.put location entry) follow links here path (.found location) := by
  have hextends : Extends tree (tree.put location entry) :=
    extends_put (h.entry?_missing hmissing) entry
  induction h with
  | done links here => cases hmissing
  | stay hdirectory hname h ih => exact .stay (hextends _ _ hdirectory) hname (ih hmissing)
  | up hdirectory h ih => exact .up (hextends _ _ hdirectory) (ih hmissing)
  | lack hdirectory hname hnone =>
      cases hmissing
      exact .enter (hextends _ _ hdirectory) hname (entry?_put_self (by simp) entry) hplain (.done _ _)
  | stop hdirectory hname hlink hfollow => cases hmissing
  | through hdirectory hname hlink hfollow h ih =>
      exact .through (hextends _ _ hdirectory) hname (hextends _ _ hlink) hfollow (ih hmissing)
  | enter hdirectory hname hentry hplain' h ih =>
      exact .enter (hextends _ _ hdirectory) hname (hextends _ _ hentry) hplain' (ih hmissing)

end Walks

/-! ### Below a location -/

/-- No link lies below a location. -/
def NoLinksBelow (tree : FileTree) (location : Location) : Prop :=
  ∀ names ≠ [], ∀ target, tree.entry? (location ++ names) ≠ some (.link target)

/-- A name that leads neither nowhere nor up. -/
structure Leads (name : String) : Prop where
  nonempty : name ≠ ""
  notDot : name ≠ "."
  notUp : name ≠ ".."

/-- What names lead to from a location without links below it: straight down. -/
def Destination.Below (tree : FileTree) (location : Location) (path : List String) :
    Destination → Prop
  | .found place => place = location ++ path ∧ (path = [] ∨ ∃ entry, tree.entry? place = some entry)
  | .missing place more => place ++ more = location ++ path

theorem Walks.straight (h : Walks tree follow links here path dest) (hlinks : NoLinksBelow tree here)
    (hpath : ∀ name ∈ path, Leads name) : dest.Below tree here path := by
  induction h with
  | done links here => exact ⟨(List.append_nil here).symm, Or.inl rfl⟩
  | stay hdirectory hname h ih =>
      have hleads := hpath _ List.mem_cons_self
      exact (hname.elim hleads.nonempty hleads.notDot).elim
  | up hdirectory h ih => exact absurd rfl (hpath _ List.mem_cons_self).notUp
  | lack hdirectory hname hnone => exact List.append_assoc _ _ _
  | stop hdirectory hname hlink hfollow => exact absurd hlink (hlinks _ (by simp) _)
  | through hdirectory hname hlink hfollow h ih => exact absurd hlink (hlinks _ (by simp) _)
  | @enter links here name rest dest entry hdirectory hname hentry hplain h ih =>
      have hbelow := ih
        (fun names hnames target => by
          rw [List.append_assoc]
          exact hlinks _ (by simp) target)
        fun other hother => hpath other (List.mem_cons_of_mem _ hother)
      cases dest with
      | missing place more => exact hbelow.trans (List.append_assoc _ _ _)
      | found place =>
          obtain ⟨hplace, hheld⟩ := hbelow
          refine ⟨hplace.trans (List.append_assoc _ _ _), Or.inr ?_⟩
          rcases hheld with rfl | hheld
          · rw [hplace, List.append_nil]
            exact ⟨entry, hentry⟩
          · exact hheld

end ModuleLoader.FileTree
