/-
Where dependency directories stand in an identity.

A name that is looked up among nested dependencies is found by what follows its last
dependency directory, whatever comes before.  So identities of one and the same resource can
be as long as one likes, and what keeps them short is not that they are found.  It is how they
come about: a reference that does not name the dependency directory itself cannot lead to a
target that has more in front of its last dependency directory than the module it stands in.

The part of an identity up to its last dependency directory is its stem, kept as a stack with
the dependency directory on top.  Following a reference never makes the stem longer
(`weight_stem_normalizeChars`), and what is found is no longer than its stem and a name
together (`length_le_of_marker`).
-/
import ModuleLoader.Proofs.Path.Segments
import ModuleLoader.Search

namespace ModuleLoader

namespace Path

open Text

/-- The number of characters of some segments, each with a slash. -/
def weight : List Segment → Nat
  | [] => 0
  | segment :: rest => segment.length + 1 + weight rest

theorem weight_append (xs ys : List Segment) : weight (xs ++ ys) = weight xs + weight ys := by
  induction xs with
  | nil => simp [weight]
  | cons x xs ih =>
      show x.length + 1 + weight (xs ++ ys) = x.length + 1 + weight xs + weight ys
      omega

theorem weight_reverse (xs : List Segment) : weight xs.reverse = weight xs := by
  induction xs with
  | nil => rfl
  | cons x xs ih =>
      rw [List.reverse_cons, weight_append, ih]
      show weight xs + (x.length + 1 + 0) = x.length + 1 + weight xs
      omega

theorem weight_split (sep : Char) (cs : List Char) : weight (split sep cs) = cs.length + 1 := by
  induction cs with
  | nil => rfl
  | cons c r ih =>
      by_cases h : c = sep
      · rw [h, split_cons_self]
        show 0 + 1 + weight (split sep r) = r.length + 1 + 1
        omega
      · rcases hs : split sep r with _ | ⟨piece, pieces⟩
        · exact absurd hs (split_ne_nil sep r)
        · rw [hs] at ih
          rw [split_cons_of_ne h hs]
          have hpiece : piece.length + 1 + weight pieces = r.length + 1 := ih
          show piece.length + 1 + 1 + weight pieces = r.length + 1 + 1
          omega

theorem weight_enter_le (rooted : Bool) (stack : List Segment) (segment : Segment) :
    weight (enter rooted stack segment) ≤ weight stack + (segment.length + 1) := by
  have hpush : weight (segment :: stack) ≤ weight stack + (segment.length + 1) := by
    show segment.length + 1 + weight stack ≤ _
    omega
  unfold enter
  split
  · omega
  split
  · rcases stack with _ | ⟨top, rest⟩
    · cases rooted
      · exact hpush
      · exact Nat.zero_le _
    · simp only
      split
      · cases rooted
        · exact hpush
        · exact Nat.le_add_right _ _
      · show weight rest ≤ top.length + 1 + weight rest + (segment.length + 1)
        omega
  · exact hpush

theorem weight_foldl_le (rooted : Bool) (segments : List Segment) : ∀ stack : List Segment,
    weight (segments.foldl (enter rooted) stack) ≤ weight stack + weight segments := by
  induction segments with
  | nil => intro stack; exact Nat.le_refl _
  | cons segment rest ih =>
      intro stack
      have hrest := ih (enter rooted stack segment)
      have henter := weight_enter_le rooted stack segment
      show _ ≤ weight stack + (segment.length + 1 + weight rest)
      rw [List.foldl_cons]
      omega

/-! ### Stems -/

section Stem

variable (name : Segment)

/-- What is left of a stack down from the topmost dependency directory. -/
def down (stack : List Segment) : List Segment := stack.dropWhile fun s => s != name

/-- The directories of a path up to its last dependency directory, that one first. -/
def stem (path : List Char) : List Segment := down name (follow (directory path))

variable {name}

theorem down_cons_self (rest : List Segment) : down name (name :: rest) = name :: rest := by
  simp [down]

theorem down_cons_of_ne {top : Segment} (h : top ≠ name) (rest : List Segment) :
    down name (top :: rest) = down name rest := by
  simp [down, h]

theorem weight_down_le (stack : List Segment) : weight (down name stack) ≤ weight stack := by
  induction stack with
  | nil => exact Nat.le_refl 0
  | cons top rest ih =>
      by_cases h : top = name
      · exact Nat.le_of_eq (by rw [h, down_cons_self])
      · rw [down_cons_of_ne h]
        show _ ≤ top.length + 1 + weight rest
        omega

theorem weight_down_tail (stack : List Segment) :
    weight (down name stack.tail) ≤ weight (down name stack) := by
  rcases stack with _ | ⟨top, rest⟩
  · exact Nat.le_refl 0
  · by_cases h : top = name
    · rw [h, down_cons_self]
      have hle : weight (down name rest) ≤ weight rest := weight_down_le rest
      show weight (down name rest) ≤ name.length + 1 + weight rest
      omega
    · rw [down_cons_of_ne h]
      exact Nat.le_refl _

/-- A stem is no longer than the path, but for a slash. -/
theorem weight_stem_le (path : List Char) : weight (stem name path) ≤ path.length + 1 := by
  have hdown : weight (stem name path) ≤ weight (follow (directory path)) := weight_down_le _
  have hfollow : weight (follow (directory path)) ≤ 0 + weight (split '/' (directory path)) :=
    weight_foldl_le _ _ []
  rw [weight_split] at hfollow
  have hlength := (directory_start path).length_le
  omega

/-- What is added to the last segment has no part in the stem. -/
theorem stem_append {path ending : List Char} (h : '/' ∉ ending) :
    stem name (path ++ ending) = stem name path := by
  unfold stem
  rw [directory_append h]

/-- A dependency directory anywhere in a stack stands in what is left from the topmost. -/
theorem weight_le_down (above below : List Segment) :
    weight (name :: below) ≤ weight (down name (above ++ name :: below)) := by
  induction above with
  | nil =>
      exact Nat.le_of_eq (by rw [List.nil_append, down_cons_self])
  | cons top rest ih =>
      by_cases h : top = name
      · rw [List.cons_append, h, down_cons_self]
        show _ ≤ name.length + 1 + weight (rest ++ name :: below)
        rw [weight_append]
        omega
      · rw [List.cons_append, down_cons_of_ne h]
        exact ih

/-- Entering any other segment makes nothing longer. -/
theorem weight_down_enter (rooted : Bool) (stack : List Segment)
    {segment : Segment} (h : segment ≠ name) :
    weight (down name (enter rooted stack segment)) ≤ weight (down name stack) := by
  have hpush : weight (down name (segment :: stack)) ≤ weight (down name stack) :=
    Nat.le_of_eq (by rw [down_cons_of_ne h])
  unfold enter
  by_cases hskip : segment = [] ∨ segment = ['.']
  · exact Nat.le_of_eq (by rw [if_pos hskip])
  rw [if_neg hskip]
  by_cases hsegment : segment = ['.', '.']
  · rw [if_pos hsegment]
    rcases stack with _ | ⟨top, rest⟩
    · cases rooted
      · exact hpush
      · exact Nat.le_refl _
    · by_cases htop : top = ['.', '.']
      · simp only [htop, if_pos]
        rw [htop] at hpush
        cases rooted
        · exact hpush
        · exact Nat.le_refl _
      · simp only [htop, if_neg, not_false_eq_true]
        exact weight_down_tail (top :: rest)
  · rw [if_neg hsegment]
    exact hpush

theorem weight_down_foldl (rooted : Bool) (segments : List Segment)
    (h : name ∉ segments) : ∀ stack : List Segment,
      weight (down name (segments.foldl (enter rooted) stack)) ≤ weight (down name stack) := by
  induction segments with
  | nil => intro stack; exact Nat.le_refl _
  | cons segment rest ih =>
      intro stack
      have hne : segment ≠ name := fun heq => h (by rw [heq]; exact List.mem_cons_self)
      exact Nat.le_trans (ih (fun hmem => h (List.mem_cons_of_mem _ hmem)) _)
        (weight_down_enter rooted stack hne)

/-- **Following a reference that names no dependency directory makes no stem longer.** -/
theorem weight_stem_normalizeChars (base reference : List Char)
    (hrooted : isRooted reference = false) (h : name ∉ split '/' reference) :
    weight (stem name (normalizeChars (directory base ++ reference))) ≤ weight (stem name base) := by
  have hfollow : weight (down name (follow (directory base ++ reference)))
      ≤ weight (stem name base) := by
    rw [follow_directory_append base hrooted]
    exact weight_down_foldl _ _ h _
  unfold stem
  rw [follow_directory_normalizeChars]
  split
  · exact hfollow
  · exact Nat.le_trans (weight_down_tail _) hfollow

/-! ### Stems and lengths -/

/-- Up to a dependency directory a normalized path is no longer than its stem, but for the
slash of the root. -/
theorem length_le_of_marker (hempty : name ≠ []) (hslash : '/' ∉ name) {path before after : List Char}
    (h : normalizeChars path = before ++ (name ++ ['/']) ++ after)
    (hbefore : before = [] ∨ ∃ front, before = front ++ ['/']) :
    (before ++ (name ++ ['/'])).length ≤ weight (stem name (normalizeChars path)) + 1 := by
  have hsplit : ∃ front : List Segment, weight front = before.length ∧
      split '/' (normalizeChars path) = front ++ [name] ++ split '/' after := by
    rcases hbefore with rfl | ⟨front, rfl⟩
    · refine ⟨[], rfl, ?_⟩
      rw [h, List.nil_append, List.append_assoc, List.singleton_append, split_append_sep,
        split_of_not_mem hslash]
      rfl
    · refine ⟨split '/' front, ?_, ?_⟩
      · rw [weight_split, List.length_append]
        rfl
      · rw [h]
        have hassoc : front ++ ['/'] ++ (name ++ ['/']) ++ after
            = front ++ '/' :: (name ++ '/' :: after) := by simp
        rw [hassoc, split_append_sep, split_append_sep, split_of_not_mem hslash, List.append_assoc]
  obtain ⟨front, hweight, hsplit⟩ := hsplit
  have hsegments := dropLast_split_normalizeChars path
  rw [hsplit, List.dropLast_append_of_ne_nil (split_ne_nil '/' after),
    ← follow_directory_normalizeChars] at hsegments
  -- Read from its end, the directory has the dependency directory somewhere, and `front`
  -- below it, without the empty segment in front of the slash of the root.
  have hstack : ∃ below : List Segment, weight front ≤ weight below + 1 ∧
      follow (directory (normalizeChars path))
        = (split '/' after).dropLast.reverse ++ name :: below.reverse := by
    by_cases hroot : isRooted path = true
    · rw [if_pos hroot] at hsegments
      rcases front with _ | ⟨first, front⟩
      · exact absurd (List.cons.inj hsegments).1 hempty
      · obtain ⟨rfl, hrest⟩ := List.cons.inj hsegments
        have hreverse : front ++ [name] ++ (split '/' after).dropLast
            = (follow (directory (normalizeChars path))).reverse := hrest
        refine ⟨front, ?_, ?_⟩
        · show ([] : Segment).length + 1 + weight front ≤ weight front + 1
          simp
          omega
        · rw [← List.reverse_reverse (follow _), ← hreverse]
          simp
    · rw [if_neg hroot, List.nil_append] at hsegments
      refine ⟨front, by omega, ?_⟩
      rw [← List.reverse_reverse (follow _), ← hsegments]
      simp
  obtain ⟨below, hbelow, hfollow⟩ := hstack
  have hle : weight (name :: below.reverse) ≤ weight (stem name (normalizeChars path)) := by
    unfold stem
    rw [hfollow]
    exact weight_le_down _ _
  have hname : weight (name :: below.reverse) = name.length + 1 + weight below := by
    show name.length + 1 + weight below.reverse = _
    rw [weight_reverse]
  rw [List.length_append, List.length_append, List.length_singleton]
  omega

end Stem

end Path

end ModuleLoader
