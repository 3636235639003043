/-
Names and components of a path.

A path is put together from its names (`intercalate_names`).  It is followed by them, but whether it
stays where it is used is told by its components.  Both views agree: a name makes a
component unless it is empty or `.`, so a path that is contained in its components neither starts at
the root nor goes up by a name (`isContained_components_iff`).  Such a path adds its plain names to
the path that it is joined to, whether these are read as components (`components_joinPath`) or
followed to a place (`place_joinPath`).

There is one exception.  Behind an empty path a `.` at the beginning of the other one is still at
the beginning, and so it stays a component (`leading`).
-/
import ModuleLoader.FileTree.Component
import ModuleLoader.Proofs.FileTree.Lexical
import ModuleLoader.Proofs.Path.Segments

namespace ModuleLoader.FileTree

open Text

variable {path below name : String}

/-! ### Names of a path -/

theorem intercalate_eq_join (pieces : List (List Char)) :
    List.intercalate ['/'] pieces = join '/' pieces := by
  induction pieces with
  | nil => rfl
  | cons piece rest ih =>
      rcases rest with _ | ⟨next, rest⟩
      · simp [List.intercalate, join]
      · rw [join_cons_cons, ← ih]
        simp [List.intercalate]

/-- A path is put together from its names. -/
theorem intercalate_names (path : String) : "/".intercalate (names path) = path := by
  apply String.toList_inj.mp
  have hnames : (names path).map String.toList = split '/' path.toList := by
    unfold names
    rw [List.map_map]
    refine (List.map_congr_left fun s _ => ?_).trans (List.map_id _)
    exact String.toList_ofList
  rw [String.toList_intercalate, hnames]
  show List.intercalate ['/'] _ = _
  rw [intercalate_eq_join, join_split]

theorem names_injective {path other : String} (h : names path = names other) : path = other := by
  rw [← intercalate_names path, h, intercalate_names]

theorem names_ne_nil (path : String) : names path ≠ [] := by
  simp [names, split_ne_nil]

/-! ### Components of names -/

theorem component?_stay (h : name = "" ∨ name = ".") : component? name = none := if_pos h

theorem component?_up : component? ".." = some .up := rfl

theorem component?_name (h : Leads name) : component? name = some (.name name) := by
  unfold component?
  rw [if_neg (not_or.mpr ⟨h.nonempty, h.notDot⟩), if_neg h.notUp]

/-- The components of names that do not go up are those names that count. -/
theorem filterMap_component? {path : List String} (hup : ".." ∉ path) :
    path.filterMap component? = (plainNames path).map .name := by
  induction path with
  | nil => rfl
  | cons name rest ih =>
      obtain ⟨hname, hrest⟩ := not_or.mp (List.mem_cons.not.mp hup)
      rcases name_cases name with hstay | rfl | hleads
      · rw [List.filterMap_cons_none (component?_stay hstay), plainNames_stay hstay, ih hrest]
      · exact absurd rfl hname
      · rw [List.filterMap_cons_some (component?_name hleads), plainNames_cons hleads, ih hrest,
          List.map_cons]

/-- **A path is contained if it neither starts at the root nor has `..` among its names.** -/
theorem isContained_components_iff :
    (components path).all Component.isContained = true ↔
      isRooted path = false ∧ ".." ∉ names path := by
  have hstart : (start path).all Component.isContained = true ↔ isRooted path = false := by
    unfold start
    split
    · next hroot => simp [hroot, Component.isContained]
    · next hroot =>
      rw [iff_true_right (Bool.eq_false_iff.mpr hroot)]
      split <;> rfl
  have hnames : ((names path).filterMap component?).all Component.isContained = true ↔
      ".." ∉ names path := by
    refine ⟨fun hall hup => ?_, fun hup => ?_⟩
    · have hmem : Component.up ∈ (names path).filterMap component? :=
        List.mem_filterMap.mpr ⟨"..", hup, component?_up⟩
      exact absurd (List.all_eq_true.mp hall _ hmem) (by decide)
    · rw [filterMap_component? hup]
      simp [Component.isContained]
  unfold components
  rw [List.all_append, Bool.and_eq_true, hstart, hnames]

/-! ### Joined paths -/

/-- The names of a path that those of another are put behind. -/
def ahead (path : String) : List String :=
  if isClosed path then (names path).dropLast else names path

theorem names_append_slash (path below : String) :
    names (path ++ "/" ++ below) = names path ++ names below := by
  unfold names
  rw [String.toList_append, String.toList_append, List.append_assoc]
  show List.map String.ofList (split '/' (path.toList ++ '/' :: below.toList)) = _
  rw [split_append_sep, List.map_append]

theorem names_slash (front : String) : names (front ++ "/") = names front ++ [""] := by
  have hsplit := names_append_slash front ""
  rwa [String.append_empty] at hsplit

theorem isClosed_empty : isClosed "" = true := rfl

theorem isClosed_slash (front : String) : isClosed (front ++ "/") = true := by
  unfold isClosed
  rw [String.toList_append]
  simp

/-- A path is empty, ends in a slash, or needs one before more names. -/
theorem end_cases (path : String) :
    path = "" ∨ (∃ front, path = front ++ "/") ∨ isClosed path = false := by
  rcases List.eq_nil_or_concat path.toList with hnil | ⟨front, last, hlast⟩
  · exact Or.inl (String.toList_inj.mp hnil)
  · rw [List.concat_eq_append] at hlast
    by_cases hslash : last = '/'
    · refine Or.inr (Or.inl ⟨String.ofList front, String.toList_inj.mp ?_⟩)
      rw [hlast, hslash, String.toList_append, String.toList_ofList]
      rfl
    · refine Or.inr (Or.inr ?_)
      unfold isClosed
      rw [hlast]
      simp [hslash]

theorem ahead_slash (front : String) : ahead (front ++ "/") = names front := by
  unfold ahead
  rw [if_pos (isClosed_slash front), names_slash, List.dropLast_concat]

theorem ahead_of_open (h : isClosed path = false) : ahead path = names path :=
  if_neg (Bool.eq_false_iff.mp h)

/-- An empty name at the end is all that is left out. -/
theorem names_eq_ahead (path : String) :
    names path = ahead path ∨ names path = ahead path ++ [""] := by
  rcases end_cases path with rfl | ⟨front, rfl⟩ | hopen
  · exact Or.inr rfl
  · rw [ahead_slash, names_slash]
    exact Or.inr rfl
  · exact Or.inl (ahead_of_open hopen).symm

theorem ahead_ne_nil (h : path ≠ "") : ahead path ≠ [] := by
  intro hnil
  rcases names_eq_ahead path with hnames | hnames
  · exact names_ne_nil path (hnames.trans hnil)
  · rw [hnil] at hnames
    exact h (names_injective hnames)

/-- The names of a path are put behind those of the path that it is joined to. -/
theorem names_joinPath (hroot : isRooted below = false) (path : String) :
    names (joinPath path below) = ahead path ++ names below := by
  unfold joinPath
  rw [if_neg (Bool.eq_false_iff.mp hroot)]
  rcases end_cases path with rfl | ⟨front, rfl⟩ | hopen
  · rw [if_pos isClosed_empty, String.empty_append]
    rfl
  · rw [if_pos (isClosed_slash front), ahead_slash, names_append_slash]
  · rw [if_neg (Bool.eq_false_iff.mp hopen), ahead_of_open hopen, names_append_slash]

theorem joinPath_empty (hroot : isRooted below = false) : joinPath "" below = below := by
  unfold joinPath
  rw [if_neg (Bool.eq_false_iff.mp hroot), if_pos isClosed_empty, String.empty_append]

theorem filterMap_ahead (path : String) :
    (ahead path).filterMap component? = (names path).filterMap component? := by
  rcases names_eq_ahead path with hnames | hnames
  · rw [hnames]
  · rw [hnames, List.filterMap_append]
    exact (List.append_nil _).symm

theorem isRooted_append (h : path ≠ "") (below : String) :
    isRooted (path ++ below) = isRooted path := by
  have hne : path.toList ≠ [] := fun hnil => h (String.toList_inj.mp hnil)
  unfold isRooted
  rw [String.toList_append, List.head?_append_of_ne_nil _ hne]

/-- What a path begins with does not depend on what is joined to it. -/
theorem start_joinPath (hroot : isRooted below = false) (h : path ≠ "") :
    start (joinPath path below) = start path := by
  have hrooted : isRooted (joinPath path below) = isRooted path := by
    unfold joinPath
    rw [if_neg (Bool.eq_false_iff.mp hroot)]
    split
    · exact isRooted_append h below
    · rw [String.append_assoc]
      exact isRooted_append h _
  have hhead : (names (joinPath path below)).head? = (names path).head? := by
    rw [names_joinPath hroot, List.head?_append_of_ne_nil _ (ahead_ne_nil h)]
    rcases names_eq_ahead path with hnames | hnames
    · rw [hnames]
    · rw [hnames, List.head?_append_of_ne_nil _ (ahead_ne_nil h)]
  unfold start
  rw [hrooted, hhead]

/-- The component that a path keeps in front of its names when another path is put before it. -/
def leading (path below : String) : List Component :=
  if path = "" ∧ (names below).head? = some "." then [.here] else []

theorem leading_empty (hroot : isRooted below = false) : leading "" below = start below := by
  unfold leading start
  rw [if_neg (Bool.eq_false_iff.mp hroot)]
  simp only [true_and]

theorem leading_of_ne_empty (h : path ≠ "") (below : String) : leading path below = [] :=
  if_neg fun hboth => h hboth.1

/-- **A contained path adds its plain names as components**, and a `.` at its beginning if there is
nothing before it. -/
theorem components_joinPath (hroot : isRooted below = false) (hup : ".." ∉ names below)
    (path : String) :
    components (joinPath path below)
      = components path ++ leading path below ++ (plainNames (names below)).map .name := by
  by_cases h : path = ""
  · subst h
    rw [joinPath_empty hroot, leading_empty hroot]
    unfold components
    rw [filterMap_component? hup]
    rfl
  · rw [leading_of_ne_empty h, List.append_nil]
    unfold components
    rw [start_joinPath hroot h, names_joinPath hroot, List.filterMap_append, filterMap_ahead,
      filterMap_component? hup, List.append_assoc]

/-- The components of a path that lead somewhere: all but `.` at its beginning. -/
def steps (path : String) : List Component := (components path).filter (· ≠ .here)

theorem filter_name (path : List String) :
    (path.map Component.name).filter (· ≠ .here) = path.map .name := by
  refine List.filter_eq_self.mpr fun component hmem => ?_
  obtain ⟨name, -, rfl⟩ := List.mem_map.mp hmem
  rfl

theorem filter_leading (path below : String) : (leading path below).filter (· ≠ .here) = [] := by
  unfold leading
  split <;> rfl

/-- **A contained path adds its plain names as steps**, also to an empty path. -/
theorem steps_joinPath (hroot : isRooted below = false) (hup : ".." ∉ names below) (path : String) :
    steps (joinPath path below) = steps path ++ (plainNames (names below)).map .name := by
  unfold steps
  rw [components_joinPath hroot hup, List.filter_append, List.filter_append, filter_leading,
    List.append_nil, filter_name]

/-- **A contained path leads down by its plain names.** -/
theorem place_joinPath (hroot : isRooted below = false) (hup : ".." ∉ names below) (path : String) :
    place (names (joinPath path below)) = place (names path) ++ plainNames (names below) := by
  have hahead : place (ahead path) = place (names path) := by
    rcases names_eq_ahead path with hnames | hnames
    · rw [hnames]
    · rw [hnames, place_append]
      rfl
  rw [names_joinPath hroot, place_append, foldl_stepTo_down hup, hahead]

end ModuleLoader.FileTree
