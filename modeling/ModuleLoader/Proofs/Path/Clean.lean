/-
Clean paths.

A clean path is written as it is meant: its segments are names, none of them empty and none a
dot segment, and it has neither a colon nor a backslash.  Such a path is no relative reference,
and it is looked up in the archive as it stands.

A reference that leads to a clean path ends as the path does.  Its last segment is a name,
because otherwise it would lead to a directory, and following the other segments does not touch
it (`suffix_of_resolve`).
-/
import ModuleLoader.Proofs.Reference

namespace ModuleLoader

open Text

/-! ### Texts that end in the same way -/

namespace Text

/-- The pieces before the last one do not depend on it. -/
theorem join_concat (sep : Char) (pieces : List (List Char)) :
    ∃ before, (before = [] ∨ ∃ front, before = front ++ [sep]) ∧
      ∀ last, join sep (pieces ++ [last]) = before ++ last := by
  rcases pieces with _ | ⟨piece, rest⟩
  · exact ⟨[], Or.inl rfl, fun last => rfl⟩
  · refine ⟨join sep (piece :: rest) ++ [sep], Or.inr ⟨_, rfl⟩, fun last => ?_⟩
    rw [join_append sep (List.cons_ne_nil piece rest) (List.cons_ne_nil last []), List.append_assoc]
    rfl

/-- An ending without the separator stands behind the last one. -/
theorem suffix_of_flat {sep : Char} {ending before last : List Char} (hflat : sep ∉ ending)
    (hbefore : before = [] ∨ ∃ front, before = front ++ [sep]) (h : ending <:+ before ++ last) :
    ending <:+ last := by
  rcases hbefore with rfl | ⟨front, rfl⟩
  · exact h
  · rw [List.append_assoc] at h
    rcases List.suffix_or_suffix_of_suffix h (List.suffix_append front ([sep] ++ last)) with hle | hle
    · rcases List.suffix_cons_iff.mp hle with heq | hle
      · rw [heq] at hflat
        exact absurd List.mem_cons_self hflat
      · exact hle
    · exact absurd (hle.subset List.mem_cons_self) hflat

theorem suffix_behind {sep : Char} {ending front last : List Char} (hflat : sep ∉ ending)
    (h : ending <:+ front ++ sep :: last) : ending <:+ last :=
  suffix_of_flat hflat (Or.inr ⟨front, rfl⟩) (by simpa using h)

end Text

namespace Path

/-! ### Clean paths -/

instance (segment : Segment) : Decidable (Ordinary segment) :=
  decidable_of_iff (segment ≠ [] ∧ segment ≠ ['.'] ∧ segment ≠ ['.', '.'] ∧ '/' ∉ segment)
    ⟨fun h => ⟨h.1, h.2.1, h.2.2.1, h.2.2.2⟩, fun h => ⟨h.nonempty, h.notDot, h.notUp, h.flat⟩⟩

/-- A path that is written as it is meant. -/
structure Clean (path : List Char) : Prop extends Plain path where
  segments : ∀ s ∈ split '/' path, Ordinary s

instance (path : List Char) : Decidable (Clean path) :=
  decidable_of_iff (Plain path ∧ ∀ s ∈ split '/' path, Ordinary s)
    ⟨fun h => ⟨h.1, h.2⟩, fun h => ⟨h.toPlain, h.segments⟩⟩

variable {path : List Char}

theorem Clean.not_nil (h : Clean path) : path ≠ [] := by
  rintro rfl
  exact (h.segments [] List.mem_cons_self).nonempty rfl

theorem Clean.not_slash (h : Clean path) (front : List Char) : path ≠ front ++ ['/'] := by
  rintro rfl
  refine (h.segments [] ?_).nonempty rfl
  rw [split_append_sep]
  exact List.mem_append_right _ List.mem_cons_self

/-- A clean path does not begin with a dot segment. -/
theorem Clean.not_dots (h : Clean path) {dots : Segment} (hdots : dots = ['.'] ∨ dots = ['.', '.'])
    (rest : List Char) : path ≠ dots ++ '/' :: rest := by
  rintro rfl
  have hflat : '/' ∉ dots := by rcases hdots with rfl | rfl <;> decide
  have hordinary : Ordinary dots := by
    refine h.segments dots ?_
    rw [split_append_sep, split_of_not_mem hflat]
    exact List.mem_cons_self
  rcases hdots with rfl | rfl
  · exact hordinary.notDot rfl
  · exact hordinary.notUp rfl

/-! ### References that lead to clean paths -/

/-- What leads to a clean path does not name a directory. -/
theorem Clean.namesDirectory (h : Clean (normalizeChars path)) : namesDirectory path = false := by
  rw [← Bool.not_eq_true]
  intro hnames
  rw [normalizeChars_eq, hnames, Bool.true_and] at h
  rcases hfollow : (follow path).reverse with _ | ⟨first, rest⟩
  · rw [hfollow] at h
    by_cases hroot : isRooted path = true
    · rw [if_pos hroot] at h
      exact h.not_slash [] rfl
    · rw [if_neg hroot] at h
      exact h.not_nil rfl
  · rw [hfollow] at h
    exact h.not_slash _ rfl

/-- **A last segment that is a name stays as it is**, and so does what comes before it. -/
theorem normalizeChars_ordinary (front : List Char) :
    ∃ before, (before = [] ∨ ∃ front', before = front' ++ ['/']) ∧
      ∀ last, Ordinary last → normalizeChars (front ++ '/' :: last) = before ++ last := by
  obtain ⟨before, hbefore, hjoin⟩ := join_concat '/'
    ((split '/' front).foldl (enter (isRooted (front ++ ['/']))) []).reverse
  have hnormal : ∀ last, Ordinary last → normalizeChars (front ++ '/' :: last)
      = (if isRooted (front ++ ['/']) = true then ['/'] else []) ++ (before ++ last) := by
    intro last hlast
    have hfollow : follow (front ++ '/' :: last) = last ::
        (split '/' front).foldl (enter (isRooted (front ++ ['/']))) [] := by
      unfold follow
      rw [split_append_sep, split_of_not_mem hlast.flat, List.foldl_append, isRooted_append_slash]
      exact hlast.enter _ _
    rw [normalizeChars_eq, (namesDirectory_slash hlast.flat).mpr hlast, hfollow,
      List.reverse_cons, hjoin, isRooted_append_slash]
    simp
  by_cases hroot : isRooted (front ++ ['/']) = true
  · refine ⟨'/' :: before, Or.inr ?_, ?_⟩
    · rcases hbefore with rfl | ⟨front', rfl⟩
      · exact ⟨[], rfl⟩
      · exact ⟨'/' :: front', rfl⟩
    · intro last hlast
      rw [hnormal last hlast, if_pos hroot]
      rfl
  · refine ⟨before, hbefore, ?_⟩
    intro last hlast
    rw [hnormal last hlast, if_neg hroot, List.nil_append]

/-- The last segment of what leads to a clean path is that of the path. -/
theorem normalizeChars_last {front last : List Char} (hflat : '/' ∉ last)
    (h : Clean (normalizeChars (front ++ '/' :: last))) :
    ∃ before, normalizeChars (front ++ '/' :: last) = before ++ last ∧
      (before = [] ∨ ∃ front, before = front ++ ['/']) := by
  obtain ⟨before, hbefore, hnormal⟩ := normalizeChars_ordinary front
  exact ⟨before, hnormal last ((namesDirectory_slash hflat).mp h.namesDirectory), hbefore⟩

end Path

namespace Reference

theorem isRelative_of_clean {path : String} (h : Path.Clean path.toList) : isRelative path = false := by
  rw [← Bool.not_eq_true]
  intro hrel
  obtain ⟨dots, hdots, rest, heq⟩ := isRelative_iff.mp hrel
  exact h.not_dots hdots rest heq

/-- **A relative reference that leads to a clean path ends as the path does.** -/
theorem suffix_of_resolve {base reference target : String} (hbase : isAbsolute base = false)
    (hrel : isRelative reference = true) (hresolve : resolve base reference = .ok target)
    (hclean : Path.Clean target.toList) {ending : List Char} (hflat : '/' ∉ ending)
    (h : ending <:+ target.toList) : ending <:+ reference.toList := by
  obtain ⟨dots, -, rest, heq⟩ := isRelative_iff.mp hrel
  rw [resolve_of_relative hbase hrel] at hresolve
  obtain rfl := Except.ok.inj hresolve
  rw [String.toList_ofList] at hclean h
  rcases hcut : cutLast? '/' reference.toList with _ | ⟨front, last⟩
  · refine absurd ?_ (cutLast?_eq_none_iff.mp hcut)
    rw [heq]
    simp
  · obtain ⟨hreference, hlast⟩ := cutLast?_eq_some_iff.mp hcut
    rw [hreference, ← List.append_assoc] at hclean h
    obtain ⟨before, hnormal, hbefore⟩ := Path.normalizeChars_last hlast hclean
    rw [hnormal] at h
    rw [hreference]
    exact ((suffix_of_flat hflat hbefore h).trans (List.suffix_cons '/' last)).trans
      (List.suffix_append front _)

end Reference

end ModuleLoader
