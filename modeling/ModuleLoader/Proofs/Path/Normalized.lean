/-
The form of a normalized path.

A normalized path is written from the stack that following the path leaves, and such a stack is
climbs with names on top (`Settled.shape`).  So its segments are the empty one of a leading slash,
the climbs, the names, and the empty one of a closing slash (`split_normalizeChars`); there are
no others.  It names a directory exactly if the path does, and so nothing is left to be done when
it is normalized again.

The stack is not the only way to read segments.  Every reading that passes over empty segments
and `.`, and in which `..` undoes the entering of a name, comes to the same end on a path and on
its normal form (`Walks.foldl_normalizeChars`).
-/
import ModuleLoader.Proofs.Path.Segments
import Mathlib.Data.List.Induction

namespace ModuleLoader.Path

open Text

/-! ### Climbs and names -/

/-- A settled stack is names above climbs, and from the root there are no climbs. -/
theorem Settled.shape {rooted : Bool} {stack : List Segment} (h : Settled rooted stack) :
    ∃ climbs names, stack = names ++ List.replicate climbs ['.', '.'] ∧
      (∀ s ∈ names, Ordinary s) ∧ (rooted = true → climbs = 0) := by
  induction h with
  | nil => exact ⟨0, [], rfl, nofun, fun _ => rfl⟩
  | @cons top rest hempty hdot hslash hup hrest ih =>
      by_cases htop : top = ['.', '.']
      · obtain ⟨hrooted, hall⟩ := hup htop
        refine ⟨rest.length + 1, [], ?_, nofun, ?_⟩
        · rw [List.replicate_succ, htop, ← List.eq_replicate_of_mem hall]
          rfl
        · rw [hrooted]
          exact nofun
      · obtain ⟨climbs, names, rfl, hnames, hroot⟩ := ih
        refine ⟨climbs, top :: names, rfl, ?_, hroot⟩
        intro s hs
        rcases List.mem_cons.mp hs with rfl | hs
        · exact ⟨hempty, hdot, htop, hslash⟩
        · exact hnames s hs

/-! ### Normalizing twice -/

/-- **Normalizing a path does not change whether it names a directory.** -/
theorem namesDirectory_normalizeChars (path : List Char) :
    namesDirectory (normalizeChars path) = namesDirectory path := by
  by_cases hdirectory : namesDirectory path = true
  · rw [hdirectory]
    unfold namesDirectory
    rw [split_normalizeChars, if_pos hdirectory, List.getLast?_concat]
    rfl
  · have hnamed := Bool.eq_false_iff.mpr hdirectory
    obtain ⟨front, last, -, hlast, hfollow⟩ := follow_of_named hnamed
    have hsplit := split_normalizeChars path
    rw [if_neg hdirectory, List.append_nil, hfollow, List.reverse_cons, ← List.append_assoc] at hsplit
    rw [hnamed]
    exact (namesDirectory_of_split hsplit).mpr hlast

/-- A normalized path is known by its root, its stack and whether it names a directory. -/
theorem normalizeChars_congr {path other : List Char} (hroot : isRooted path = isRooted other)
    (hfollow : follow path = follow other)
    (hdirectory : namesDirectory path = namesDirectory other) :
    normalizeChars path = normalizeChars other := by
  rw [normalizeChars_eq, normalizeChars_eq, hroot, hfollow, hdirectory]

/-- **Normalizing twice is normalizing once.** -/
theorem normalizeChars_normalizeChars (path : List Char) :
    normalizeChars (normalizeChars path) = normalizeChars path :=
  normalizeChars_congr (isRooted_normalizeChars path) (follow_normalizeChars path)
    (namesDirectory_normalizeChars path)

/-! ### Normal form -/

/-- The segments of a path without the empty ones. -/
def parts (path : List Char) : List Segment := (split '/' path).filter (· ≠ [])

/-- A path in normal form.  Only its first and its last segment may be empty, which they are if
it begins or ends with a slash. -/
structure Normalized (path : List Char) : Prop where
  noDot : ['.'] ∉ split '/' path
  inner : [] ∉ (split '/' path).tail.dropLast
  /-- `..` comes before every name, and in a path from the root not at all. -/
  climbs : ∃ climbs names, parts path = List.replicate climbs ['.', '.'] ++ names ∧
    ['.', '.'] ∉ names ∧ (isRooted path = true → climbs = 0)

theorem parts_normalizeChars (path : List Char) :
    parts (normalizeChars path) = (follow path).reverse := by
  have hkeep : (follow path).reverse.filter (· ≠ []) = (follow path).reverse := by
    refine List.filter_eq_self.mpr fun s hs => ?_
    exact decide_eq_true ((settled_follow path).of_mem (List.mem_reverse.mp hs)).1
  have hdrop : ∀ b : Bool, (if b = true then [[]] else [] : List Segment).filter (· ≠ []) = [] := by
    intro b
    cases b <;> rfl
  unfold parts
  rw [split_normalizeChars, List.filter_append, List.filter_append, hdrop, hdrop, hkeep,
    List.nil_append, List.append_nil]

/-- Between an end that may be missing and another one stands nothing else. -/
theorem mem_of_mem_inner {root closing : Bool} {segments : List Segment} {s : Segment}
    (h : s ∈ ((if root = true then [[]] else []) ++ segments ++
      (if closing = true then [[]] else [])).tail.dropLast) : s ∈ segments := by
  have hfront : s ∈ (segments ++ (if closing = true then [[]] else [])).dropLast := by
    cases root with
    | true => simpa using h
    | false =>
        rw [← List.tail_dropLast] at h
        simpa using List.mem_of_mem_tail h
  cases closing with
  | true => rwa [if_pos rfl, List.dropLast_concat] at hfront
  | false => simpa using List.dropLast_subset _ hfront

/-- **A normalized path is in normal form.** -/
theorem normalized_normalizeChars (path : List Char) : Normalized (normalizeChars path) := by
  have hsettled := settled_follow path
  refine ⟨?_, ?_, ?_⟩
  · have hends : ∀ b : Bool, ['.'] ∉ (if b = true then [[]] else [] : List Segment) := by
      intro b
      cases b <;> simp
    rw [split_normalizeChars]
    intro hmem
    rcases List.mem_append.mp hmem with hmem | hmem
    · rcases List.mem_append.mp hmem with hmem | hmem
      · exact hends _ hmem
      · exact (hsettled.of_mem (List.mem_reverse.mp hmem)).2.1 rfl
    · exact hends _ hmem
  · -- Between the two ends there are only segments of the stack.
    intro hmem
    rw [split_normalizeChars] at hmem
    have hstack : [] ∈ (follow path).reverse := mem_of_mem_inner hmem
    exact (hsettled.of_mem (List.mem_reverse.mp hstack)).1 rfl
  · obtain ⟨climbs, names, hstack, hnames, hroot⟩ := hsettled.shape
    refine ⟨climbs, names.reverse, ?_, ?_, ?_⟩
    · rw [parts_normalizeChars, hstack, List.reverse_append, List.reverse_replicate]
    · exact fun hmem => (hnames _ (List.mem_reverse.mp hmem)).notUp rfl
    · rw [isRooted_normalizeChars]
      exact hroot

/-! ### Paths of names -/

section

variable {names : List Segment} (hne : names ≠ []) (hnames : ∀ s ∈ names, Ordinary s)

include hne hnames

theorem split_names : split '/' (join '/' names) = names :=
  split_join hne fun s hs => (hnames s hs).flat

theorem isRooted_names : isRooted (join '/' names) = false := by
  rcases names with _ | ⟨first, rest⟩
  · exact absurd rfl hne
  · have hfirst := hnames first List.mem_cons_self
    rcases rest with _ | ⟨next, rest⟩
    · simpa [join] using hfirst.isRooted []
    · exact hfirst.isRooted _

theorem follow_names : follow (join '/' names) = names.reverse := by
  unfold follow
  rw [split_names hne hnames, foldl_ordinary hnames, List.append_nil]

/-- A path of names is written as it is meant. -/
theorem normalizeChars_names : normalizeChars (join '/' names) = join '/' names := by
  have hnamed : namesDirectory (join '/' names) = false := by
    rcases List.eq_nil_or_concat names with rfl | ⟨front, last, rfl⟩
    · exact absurd rfl hne
    · rw [List.concat_eq_append] at hne hnames ⊢
      exact (namesDirectory_of_split (split_names hne hnames)).mpr (hnames last (by simp))
  rw [normalizeChars_eq, isRooted_names hne hnames, follow_names hne hnames, hnamed,
    List.reverse_reverse]
  simp

end

/-! ### Other readings -/

/-- Steps from segment to segment that pass over empty segments and `.`, and in which `..` undoes
the entering of a name. -/
structure Walks {α : Type} (step : α → Segment → α) : Prop where
  skip : ∀ (place : α) {s : Segment}, s = [] ∨ s = ['.'] → step place s = place
  back : ∀ (place : α) {s : Segment}, Ordinary s → step (step place s) ['.', '.'] = place

/-- Entering segments on a stack is such a reading. -/
theorem walks_enter (rooted : Bool) : Walks (enter rooted) where
  skip place s hs := by
    unfold enter
    rw [if_pos hs]
  back place s hs := by
    rw [hs.enter]
    unfold enter
    simp [hs.notUp]

namespace Walks

variable {α : Type} {step : α → Segment → α} {rooted : Bool} {start : α}

/-- A segment that is entered on a settled stack is one step more. -/
theorem foldl_enter (hwalks : Walks step) {stack : List Segment} {segment : Segment}
    (h : Settled rooted stack) (htop : rooted = true → step start ['.', '.'] = start) :
    (enter rooted stack segment).reverse.foldl step start
      = step (stack.reverse.foldl step start) segment := by
  have hpush : ∀ s : Segment, (s :: stack).reverse.foldl step start
      = step (stack.reverse.foldl step start) s := by
    intro s
    rw [List.reverse_cons, List.foldl_append]
    rfl
  unfold enter
  by_cases hskip : segment = [] ∨ segment = ['.']
  · rw [if_pos hskip, hwalks.skip _ hskip]
  rw [if_neg hskip]
  by_cases hup : segment = ['.', '.']
  · rw [if_pos hup, hup]
    cases h with
    | nil =>
        cases rooted with
        | true => exact (htop rfl).symm
        | false => rfl
    | @cons top rest hempty hdot hslash hclimbs hrest =>
        by_cases htopup : top = ['.', '.']
        · obtain ⟨rfl, -⟩ := hclimbs htopup
          simp only [htopup, if_true, Bool.false_eq_true, if_false]
          rw [← htopup]
          exact hpush top
        · simp only [htopup, if_false]
          rw [List.reverse_cons, List.foldl_append]
          exact (hwalks.back _ ⟨hempty, hdot, htopup, hslash⟩).symm
  · rw [if_neg hup]
    exact hpush segment

/-- The stack that segments leave stands for the steps along them. -/
theorem foldl_stack (hwalks : Walks step) (htop : rooted = true → step start ['.', '.'] = start)
    {segments : List Segment} (hflat : ∀ s ∈ segments, '/' ∉ s) :
    (segments.foldl (enter rooted) []).reverse.foldl step start = segments.foldl step start := by
  induction segments using List.reverseRecOn with
  | nil => rfl
  | append_singleton front last ih =>
      have hfront : ∀ s ∈ front, '/' ∉ s := fun s hs => hflat s (List.mem_append_left _ hs)
      rw [List.foldl_append, List.foldl_append, ← ih hfront]
      exact hwalks.foldl_enter (Settled.nil.foldl hfront) htop

/-- The steps along a path lead where those along its stack lead. -/
theorem foldl_follow (hwalks : Walks step) {path : List Char}
    (htop : isRooted path = true → step start ['.', '.'] = start) :
    (follow path).reverse.foldl step start = (split '/' path).foldl step start :=
  hwalks.foldl_stack htop fun _ hs => not_mem_of_mem_split hs

/-- **The steps along a normalized path lead where those along the path lead.** -/
theorem foldl_normalizeChars (hwalks : Walks step) {path : List Char}
    (htop : isRooted path = true → step start ['.', '.'] = start) :
    (split '/' (normalizeChars path)).foldl step start = (split '/' path).foldl step start := by
  have hnormal : isRooted (normalizeChars path) = true → step start ['.', '.'] = start := by
    rw [isRooted_normalizeChars]
    exact htop
  rw [← hwalks.foldl_follow htop, ← hwalks.foldl_follow hnormal, follow_normalizeChars]

end Walks

end ModuleLoader.Path
