/-
What is left of a path when its dot segments are followed.

Following a path is a fold over its segments with a stack, so everything here is about the
stacks such a fold can leave (`Settled`): they hold no empty segment and no `.`, and `..` only
where the path climbs above its start.  A settled stack is read back as it was written down,
and that is why normalizing twice is normalizing once (`follow_normalizeChars`).

A path behind the directory of another one is entered on what following that directory leaves
(`follow_directory_append`), and the directory of a normalized path is all of it if the path
names a directory, and all of it but its name otherwise (`follow_directory_normalizeChars`).
-/
import ModuleLoader.Path

namespace ModuleLoader

namespace Text

/-! ### Cutting -/

theorem cut?_eq_none_iff {sep : Char} {cs : List Char} : cut? sep cs = none ↔ sep ∉ cs := by
  induction cs with
  | nil => simp [cut?]
  | cons c r ih =>
      by_cases h : c = sep
      · simp [cut?, h]
      · simp [cut?, h, ih, Ne.symm h]

/-- A cut is made at the first occurrence. -/
theorem cut?_eq_some_iff {sep : Char} {cs before after : List Char} :
    cut? sep cs = some (before, after) ↔ cs = before ++ sep :: after ∧ sep ∉ before := by
  induction cs generalizing before with
  | nil => simp [cut?]
  | cons c r ih =>
      unfold cut?
      by_cases h : c = sep
      · subst h
        rw [if_pos rfl]
        constructor
        · intro heq
          obtain ⟨rfl, rfl⟩ := Prod.mk.inj (Option.some.inj heq)
          exact ⟨rfl, List.not_mem_nil⟩
        · rintro ⟨heq, hmem⟩
          rcases before with _ | ⟨b, before⟩
          · obtain ⟨-, rfl⟩ := List.cons.inj heq
            rfl
          · obtain ⟨rfl, -⟩ := List.cons.inj heq
            exact absurd List.mem_cons_self hmem
      · rw [if_neg h]
        constructor
        · intro heq
          obtain ⟨⟨front, back⟩, hcut, hpair⟩ := Option.map_eq_some_iff.mp heq
          obtain ⟨rfl, rfl⟩ := Prod.mk.inj hpair
          obtain ⟨rfl, hmem⟩ := ih.mp hcut
          refine ⟨rfl, ?_⟩
          intro hsep
          rcases List.mem_cons.mp hsep with rfl | hsep
          · exact h rfl
          · exact hmem hsep
        · rintro ⟨heq, hmem⟩
          rcases before with _ | ⟨b, before⟩
          · obtain ⟨rfl, -⟩ := List.cons.inj heq
            exact absurd rfl h
          · obtain ⟨rfl, hr⟩ := List.cons.inj heq
            have hcut := ih.mpr ⟨hr, fun hsep => hmem (List.mem_cons_of_mem _ hsep)⟩
            rw [hcut]
            rfl

theorem cutLast?_eq_none_iff {sep : Char} {cs : List Char} : cutLast? sep cs = none ↔ sep ∉ cs := by
  unfold cutLast?
  rw [Option.map_eq_none_iff, cut?_eq_none_iff, List.mem_reverse]

/-- The last cut is made at the last occurrence. -/
theorem cutLast?_eq_some_iff {sep : Char} {cs before after : List Char} :
    cutLast? sep cs = some (before, after) ↔ cs = before ++ sep :: after ∧ sep ∉ after := by
  unfold cutLast?
  constructor
  · intro h
    obtain ⟨⟨back, front⟩, hcut, hpair⟩ := Option.map_eq_some_iff.mp h
    obtain ⟨rfl, rfl⟩ := Prod.mk.inj hpair
    obtain ⟨heq, hmem⟩ := cut?_eq_some_iff.mp hcut
    refine ⟨?_, fun hsep => hmem (List.mem_reverse.mp hsep)⟩
    rw [← List.reverse_reverse cs, heq]
    simp
  · rintro ⟨rfl, hmem⟩
    refine Option.map_eq_some_iff.mpr ⟨(after.reverse, before.reverse), ?_, by simp⟩
    refine cut?_eq_some_iff.mpr ⟨by simp, ?_⟩
    rwa [List.mem_reverse]

theorem isSome_dropStart?_iff {start cs : List Char} :
    (dropStart? start cs).isSome = true ↔ start <+: cs := by
  rw [Option.isSome_iff_exists]
  exact ⟨fun ⟨rest, hrest⟩ => ⟨rest, (dropStart?_eq_some_iff.mp hrest).symm⟩,
    fun ⟨rest, hrest⟩ => ⟨rest, dropStart?_eq_some_iff.mpr hrest.symm⟩⟩

/-- A separator stands before an ending that has none. -/
theorem stem_of_separator {sep : Char} {front rest stem ending : List Char} (hflat : sep ∉ ending)
    (h : front ++ sep :: rest = stem ++ ending) : front ++ [sep] <+: stem := by
  rcases List.append_eq_append_iff.mp h with ⟨more, rfl, hmore⟩ | ⟨more, rfl, hmore⟩
  · rcases more with _ | ⟨c, more⟩
    · rw [List.nil_append] at hmore
      exact absurd (hmore ▸ List.mem_cons_self) hflat
    · obtain rfl := (List.cons.inj hmore).1
      exact ⟨more, by simp⟩
  · exact absurd (by simp [hmore]) hflat

/-! ### Splitting -/

theorem split_cons_self (sep : Char) (cs : List Char) : split sep (sep :: cs) = [] :: split sep cs := by
  rw [split, if_pos rfl]

theorem split_cons_of_ne {sep c : Char} (h : c ≠ sep) {cs piece : List Char}
    {pieces : List (List Char)} (hs : split sep cs = piece :: pieces) :
    split sep (c :: cs) = (c :: piece) :: pieces := by
  rw [split, if_neg h, hs]

theorem split_of_not_mem {sep : Char} {cs : List Char} (h : sep ∉ cs) : split sep cs = [cs] := by
  induction cs with
  | nil => rfl
  | cons c r ih =>
      have hc : c ≠ sep := fun heq => h (by rw [heq]; exact List.mem_cons_self)
      exact split_cons_of_ne hc (ih fun hmem => h (List.mem_cons_of_mem _ hmem))

/-- A separator parts the pieces before it from those after it. -/
theorem split_append_sep (sep : Char) (xs ys : List Char) :
    split sep (xs ++ sep :: ys) = split sep xs ++ split sep ys := by
  induction xs with
  | nil => exact split_cons_self sep ys
  | cons c r ih =>
      rw [List.cons_append]
      by_cases hc : c = sep
      · rw [hc, split_cons_self, split_cons_self, ih]
        rfl
      · rcases hs : split sep r with _ | ⟨piece, pieces⟩
        · exact absurd hs (split_ne_nil sep r)
        · rw [hs] at ih
          rw [split_cons_of_ne hc ih, split_cons_of_ne hc hs]
          rfl

theorem join_cons_cons (sep : Char) (piece next : List Char) (pieces : List (List Char)) :
    join sep (piece :: next :: pieces) = piece ++ sep :: join sep (next :: pieces) := rfl

theorem join_append (sep : Char) {pieces rest : List (List Char)} (hpieces : pieces ≠ [])
    (hrest : rest ≠ []) : join sep (pieces ++ rest) = join sep pieces ++ sep :: join sep rest := by
  induction pieces with
  | nil => exact absurd rfl hpieces
  | cons piece more ih =>
      rcases more with _ | ⟨next, more⟩
      · rcases rest with _ | ⟨first, rest⟩
        · exact absurd rfl hrest
        · rfl
      · have hmore := ih (by simp)
        simp only [List.cons_append, join_cons_cons, List.append_assoc] at hmore ⊢
        rw [hmore]

/-- Pieces without the separator are what their join is split into. -/
theorem split_join {sep : Char} {pieces : List (List Char)} (hne : pieces ≠ [])
    (h : ∀ piece ∈ pieces, sep ∉ piece) : split sep (join sep pieces) = pieces := by
  induction pieces with
  | nil => exact absurd rfl hne
  | cons piece rest ih =>
      have hpiece := h piece List.mem_cons_self
      rcases rest with _ | ⟨next, rest⟩
      · exact split_of_not_mem hpiece
      · rw [join_cons_cons, split_append_sep, split_of_not_mem hpiece,
          ih (by simp) fun p hp => h p (List.mem_cons_of_mem _ hp)]
        rfl

/-! ### Characters of pieces -/

theorem mem_join {sep c : Char} {pieces : List (List Char)} (h : c ∈ join sep pieces) :
    c = sep ∨ ∃ piece ∈ pieces, c ∈ piece := by
  induction pieces with
  | nil => cases h
  | cons piece rest ih =>
      rcases rest with _ | ⟨next, rest⟩
      · exact Or.inr ⟨piece, List.mem_cons_self, h⟩
      · rw [join_cons_cons] at h
        rcases List.mem_append.mp h with h | h
        · exact Or.inr ⟨piece, List.mem_cons_self, h⟩
        · rcases List.mem_cons.mp h with rfl | h
          · exact Or.inl rfl
          · obtain hsep | ⟨other, hother, hc⟩ := ih h
            · exact Or.inl hsep
            · exact Or.inr ⟨other, List.mem_cons_of_mem _ hother, hc⟩

theorem mem_join_of_mem {sep c : Char} {pieces : List (List Char)} {piece : List Char}
    (hpiece : piece ∈ pieces) (h : c ∈ piece) : c ∈ join sep pieces := by
  induction pieces with
  | nil => cases hpiece
  | cons first rest ih =>
      rcases rest with _ | ⟨next, rest⟩
      · rwa [List.mem_singleton.mp hpiece] at h
      · rw [join_cons_cons]
        rcases List.mem_cons.mp hpiece with rfl | hpiece
        · exact List.mem_append_left _ h
        · exact List.mem_append_right _ (List.mem_cons_of_mem _ (ih hpiece))

/-- The pieces of a text have no other characters than the text. -/
theorem mem_of_mem_split {sep c : Char} {cs piece : List Char} (hpiece : piece ∈ split sep cs)
    (h : c ∈ piece) : c ∈ cs := by
  rw [← join_split sep cs]
  exact mem_join_of_mem hpiece h

/-- Only the last piece changes when something without the separator is added. -/
theorem split_append (sep : Char) (cs : List Char) :
    ∃ front last, split sep cs = front ++ [last] ∧
      ∀ ending, sep ∉ ending → split sep (cs ++ ending) = front ++ [last ++ ending] := by
  rcases h : cutLast? sep cs with _ | ⟨before, last⟩
  · have hnot := cutLast?_eq_none_iff.mp h
    refine ⟨[], cs, split_of_not_mem hnot, ?_⟩
    intro ending hending
    exact split_of_not_mem (by simp [hnot, hending])
  · obtain ⟨rfl, hlast⟩ := cutLast?_eq_some_iff.mp h
    refine ⟨split sep before, last, ?_, ?_⟩
    · rw [split_append_sep, split_of_not_mem hlast]
    · intro ending hending
      have hnot : sep ∉ last ++ ending := by simp [hlast, hending]
      rw [List.append_assoc, List.cons_append, split_append_sep, split_of_not_mem hnot]

end Text

namespace Path

open Text

/-! ### Settled stacks -/

/-- A stack that following a path can leave: no segment is empty, `.` or holds a slash, and
below `..` there is only `..`, in a path that does not start at the root. -/
inductive Settled (rooted : Bool) : List Segment → Prop
  | nil : Settled rooted []
  | cons {top : Segment} {rest : List Segment} (hempty : top ≠ []) (hdot : top ≠ ['.'])
      (hslash : '/' ∉ top)
      (hup : top = ['.', '.'] → rooted = false ∧ ∀ s ∈ rest, s = ['.', '.'])
      (hrest : Settled rooted rest) : Settled rooted (top :: rest)

namespace Settled

variable {rooted : Bool} {stack : List Segment}

theorem tail (h : Settled rooted stack) : Settled rooted stack.tail := by
  cases h with
  | nil => exact .nil
  | cons _ _ _ _ hrest => exact hrest

theorem of_mem (h : Settled rooted stack) {s : Segment} (hs : s ∈ stack) :
    s ≠ [] ∧ s ≠ ['.'] ∧ '/' ∉ s := by
  induction h with
  | nil => cases hs
  | cons hempty hdot hslash _ _ ih =>
      rcases List.mem_cons.mp hs with rfl | hs
      · exact ⟨hempty, hdot, hslash⟩
      · exact ih hs

/-- Entering a segment leaves the stack settled. -/
theorem enter {segment : Segment} (h : Settled rooted stack) (hslash : '/' ∉ segment) :
    Settled rooted (enter rooted stack segment) := by
  unfold Path.enter
  by_cases hskip : segment = [] ∨ segment = ['.']
  · rw [if_pos hskip]
    exact h
  rw [if_neg hskip]
  obtain ⟨hempty, hdot⟩ := not_or.mp hskip
  by_cases hup : segment = ['.', '.']
  · rw [if_pos hup]
    cases h with
    | nil =>
        cases rooted with
        | true => exact .nil
        | false => exact .cons hempty hdot hslash (fun _ => ⟨rfl, nofun⟩) .nil
    | @cons top rest htop hdot' hslash' hup' hrest =>
        by_cases htopup : top = ['.', '.']
        · simp only [htopup, if_pos]
          obtain ⟨hrooted, hall⟩ := hup' htopup
          rw [hrooted, if_neg Bool.false_ne_true]
          refine .cons hempty hdot hslash (fun _ => ⟨rfl, ?_⟩) ?_
          · intro s hs
            rcases List.mem_cons.mp hs with rfl | hs
            · rfl
            · exact hall s hs
          · rw [← htopup, ← hrooted]
            exact .cons htop hdot' hslash' hup' hrest
        · simp only [htopup, if_neg, not_false_eq_true]
          exact hrest
  · rw [if_neg hup]
    exact .cons hempty hdot hslash (fun heq => absurd heq hup) h

theorem foldl {segments : List Segment} (h : Settled rooted stack)
    (hslash : ∀ s ∈ segments, '/' ∉ s) : Settled rooted (segments.foldl (Path.enter rooted) stack) := by
  induction segments generalizing stack with
  | nil => exact h
  | cons segment rest ih =>
      exact ih (h.enter (hslash segment List.mem_cons_self))
        fun s hs => hslash s (List.mem_cons_of_mem _ hs)

/-- A segment that stands on a settled stack is pushed when it is entered. -/
theorem enter_top {top : Segment} (h : Settled rooted (top :: stack)) :
    Path.enter rooted stack top = top :: stack := by
  cases h with
  | cons hempty hdot _ hup hrest =>
      unfold Path.enter
      rw [if_neg (not_or.mpr ⟨hempty, hdot⟩)]
      by_cases htop : top = ['.', '.']
      · obtain ⟨hrooted, hall⟩ := hup htop
        rw [if_pos htop, hrooted]
        rcases stack with _ | ⟨next, rest⟩
        · rfl
        · simp only [hall next List.mem_cons_self, if_pos, Bool.false_eq_true, if_false]
      · rw [if_neg htop]

/-- **A settled stack is read back as it is written down.** -/
theorem foldl_reverse (h : Settled rooted stack) :
    stack.reverse.foldl (Path.enter rooted) [] = stack := by
  induction stack with
  | nil => rfl
  | cons top rest ih =>
      rw [List.reverse_cons, List.foldl_append, ih h.tail]
      exact h.enter_top

end Settled

/-! ### Following a path -/

/-- The stack that is left when a path has been followed. -/
def follow (path : List Char) : List Segment := (split '/' path).foldl (enter (isRooted path)) []

theorem settled_follow (path : List Char) : Settled (isRooted path) (follow path) :=
  Settled.nil.foldl fun _ hs => not_mem_of_mem_split hs

theorem normalizeChars_eq (path : List Char) :
    normalizeChars path =
      (if isRooted path = true then ['/'] else []) ++ join '/' (follow path).reverse ++
        (if (namesDirectory path && !(follow path).reverse.isEmpty) = true then ['/'] else []) := rfl

theorem enter_nil (rooted : Bool) (stack : List Segment) : enter rooted stack [] = stack := by
  unfold enter
  rw [if_pos (Or.inl rfl)]

/-! ### Ordinary segments -/

/-- A segment that names a file or a directory. -/
structure Ordinary (segment : Segment) : Prop where
  nonempty : segment ≠ []
  notDot : segment ≠ ['.']
  notUp : segment ≠ ['.', '.']
  flat : '/' ∉ segment

theorem Ordinary.enter {segment : Segment} (h : Ordinary segment) (rooted : Bool)
    (stack : List Segment) : enter rooted stack segment = segment :: stack := by
  unfold Path.enter
  rw [if_neg (not_or.mpr ⟨h.nonempty, h.notDot⟩), if_neg h.notUp]

/-- Ordinary segments are entered one after the other. -/
theorem foldl_ordinary {segments : List Segment} (h : ∀ s ∈ segments, Ordinary s) (rooted : Bool) :
    ∀ stack : List Segment, segments.foldl (enter rooted) stack = segments.reverse ++ stack := by
  induction segments with
  | nil => intro stack; rfl
  | cons segment rest ih =>
      intro stack
      rw [List.foldl_cons, (h segment List.mem_cons_self).enter,
        ih (fun s hs => h s (List.mem_cons_of_mem _ hs)), List.reverse_cons, List.append_assoc]
      rfl

theorem Ordinary.isRooted {segment : Segment} (h : Ordinary segment) (rest : List Char) :
    isRooted (segment ++ rest) = false := by
  rcases segment with _ | ⟨c, cs⟩
  · exact absurd rfl h.nonempty
  · have hc : c ≠ '/' := fun heq => h.flat (by rw [heq]; exact List.mem_cons_self)
    simp [Path.isRooted, hc]

/-! ### The last segment -/

/-- Whether a path names a directory is seen from its last segment. -/
theorem namesDirectory_of_split {path : List Char} {front : List Segment} {last : Segment}
    (h : split '/' path = front ++ [last]) : namesDirectory path = false ↔ Ordinary last := by
  have hmem : last ∈ split '/' path := by
    rw [h]
    exact List.mem_append_right _ List.mem_cons_self
  unfold namesDirectory
  rw [h, List.getLast?_concat]
  simp only [List.mem_cons, Option.some.injEq, List.not_mem_nil, or_false, decide_eq_false_iff_not,
    not_or]
  exact ⟨fun h => ⟨h.1, h.2.1, h.2.2, not_mem_of_mem_split hmem⟩, fun h => ⟨h.nonempty, h.notDot, h.notUp⟩⟩

theorem namesDirectory_slash {front last : List Char} (hflat : '/' ∉ last) :
    namesDirectory (front ++ '/' :: last) = false ↔ Ordinary last :=
  namesDirectory_of_split (by rw [split_append_sep, split_of_not_mem hflat])

/-- A path that names no directory ends in a name, which is left on top of its stack. -/
theorem follow_of_named {path : List Char} (h : namesDirectory path = false) :
    ∃ front last, split '/' path = front ++ [last] ∧ Ordinary last ∧
      follow path = last :: front.foldl (enter (isRooted path)) [] := by
  obtain ⟨front, last, hsplit, -⟩ := split_append '/' path
  have hlast := (namesDirectory_of_split hsplit).mp h
  refine ⟨front, last, hsplit, hlast, ?_⟩
  unfold follow
  rw [hsplit, List.foldl_append]
  exact hlast.enter _ _

/-- If nothing is left of a path, it names a directory. -/
theorem namesDirectory_of_follow_nil {path : List Char} (h : follow path = []) :
    namesDirectory path = true := by
  rw [← Bool.not_eq_false]
  intro hnamed
  obtain ⟨front, last, -, -, hfollow⟩ := follow_of_named hnamed
  rw [h] at hfollow
  cases hfollow

/-! ### Characters of normalized paths -/

theorem mem_enter {rooted : Bool} {stack : List Segment} {segment s : Segment}
    (h : s ∈ enter rooted stack segment) : s = segment ∨ s ∈ stack := by
  unfold enter at h
  split at h
  · exact Or.inr h
  split at h
  · rcases stack with _ | ⟨top, rest⟩
    · cases rooted
      · exact Or.inl (List.mem_singleton.mp h)
      · cases h
    · simp only at h
      split at h
      · cases rooted
        · exact List.mem_cons.mp h
        · exact Or.inr h
      · exact Or.inr (List.mem_cons_of_mem _ h)
  · exact List.mem_cons.mp h

theorem mem_foldl_enter {rooted : Bool} {segments : List Segment} {s : Segment} :
    ∀ {stack : List Segment}, s ∈ segments.foldl (enter rooted) stack → s ∈ segments ∨ s ∈ stack := by
  induction segments with
  | nil => intro stack h; exact Or.inr h
  | cons segment rest ih =>
      intro stack h
      rcases ih h with h | h
      · exact Or.inl (List.mem_cons_of_mem _ h)
      · rcases mem_enter h with rfl | h
        · exact Or.inl List.mem_cons_self
        · exact Or.inr h

/-- Normalizing brings in no other character than slashes. -/
theorem mem_normalizeChars {path : List Char} {c : Char} (h : c ∈ normalizeChars path)
    (hslash : c ≠ '/') : c ∈ path := by
  have hslashes : ∀ {b : Bool}, c ∉ (if b = true then ['/'] else []) := by
    intro b hc
    cases b
    · cases hc
    · exact hslash (List.mem_singleton.mp hc)
  rw [normalizeChars_eq] at h
  rcases List.mem_append.mp h with h | h
  · rcases List.mem_append.mp h with h | h
    · exact absurd h hslashes
    · rcases mem_join h with rfl | ⟨s, hs, hc⟩
      · exact absurd rfl hslash
      · rcases mem_foldl_enter (List.mem_reverse.mp hs) with hs | hs
        · exact mem_of_mem_split hs hc
        · cases hs
  · exact absurd h hslashes

/-! ### The segments of a normalized path -/

/-- What stands in a normalized path besides the slash of the root. -/
def body (path : List Char) : List Char :=
  join '/' (follow path).reverse ++
    (if (namesDirectory path && !(follow path).reverse.isEmpty) = true then ['/'] else [])

theorem normalizeChars_body (path : List Char) :
    normalizeChars path = (if isRooted path = true then ['/'] else []) ++ body path := by
  rw [normalizeChars_eq, List.append_assoc]
  rfl

theorem split_body (path : List Char) :
    split '/' (body path) =
      (follow path).reverse ++ (if namesDirectory path = true then [[]] else []) := by
  unfold body
  rcases hfollow : (follow path).reverse with _ | ⟨first, rest⟩
  · have hdirectory := namesDirectory_of_follow_nil (List.reverse_eq_nil_iff.mp hfollow)
    simp [join, split, hdirectory]
  · have hflat : ∀ s ∈ first :: rest, '/' ∉ s := by
      intro s hs
      rw [← hfollow, List.mem_reverse] at hs
      exact ((settled_follow path).of_mem hs).2.2
    by_cases hdirectory : namesDirectory path = true
    · simp only [hdirectory, List.isEmpty_cons, Bool.not_false, Bool.and_self, if_true]
      rw [split_append_sep, split_join (List.cons_ne_nil _ _) hflat]
      rfl
    · simp only [hdirectory, Bool.false_and, Bool.false_eq_true, if_false, List.append_nil]
      exact split_join (List.cons_ne_nil _ _) hflat

theorem body_head (path : List Char) : (body path).head? ≠ some '/' := by
  unfold body
  rcases h : (follow path).reverse with _ | ⟨first, rest⟩
  · simp [join]
  · obtain ⟨hempty, -, hslash⟩ := (settled_follow path).of_mem
      (List.mem_reverse.mp (by rw [h]; exact List.mem_cons_self))
    rcases first with _ | ⟨c, first⟩
    · exact absurd rfl hempty
    · have hc : c ≠ '/' := fun heq => hslash (by rw [heq]; exact List.mem_cons_self)
      rcases rest with _ | ⟨next, rest⟩ <;> simpa [join] using hc

theorem isRooted_normalizeChars (path : List Char) :
    isRooted (normalizeChars path) = isRooted path := by
  rw [normalizeChars_body]
  by_cases h : isRooted path = true
  · rw [if_pos h, h]
    rfl
  · rw [if_neg h, Bool.eq_false_iff.mpr h, List.nil_append]
    unfold isRooted
    exact decide_eq_false (body_head path)

/-- **A normalized path is split into the segments that are left**, with an empty one for the root
and one for a closing slash. -/
theorem split_normalizeChars (path : List Char) :
    split '/' (normalizeChars path) =
      (if isRooted path = true then [[]] else []) ++ (follow path).reverse ++
        (if namesDirectory path = true then [[]] else []) := by
  rw [List.append_assoc, ← split_body, normalizeChars_body]
  by_cases h : isRooted path = true
  · rw [if_pos h, if_pos h]
    exact split_cons_self '/' (body path)
  · rw [if_neg h, if_neg h]
    rfl

theorem foldl_root (path : List Char) (segments : List Segment) :
    ((if isRooted path = true then [[]] else []) ++ segments).foldl (enter (isRooted path)) []
      = segments.foldl (enter (isRooted path)) [] := by
  by_cases h : isRooted path = true
  · rw [if_pos h]
    show segments.foldl (enter (isRooted path)) (enter (isRooted path) [] []) = _
    rw [enter_nil]
  · rw [if_neg h]
    rfl

theorem foldl_closing (rooted closing : Bool) (stack : List Segment) :
    (if closing = true then [[]] else []).foldl (enter rooted) stack = stack := by
  cases closing with
  | true => exact enter_nil rooted stack
  | false => rfl

/-- **Following a normalized path leaves what following the path itself leaves.** -/
theorem follow_normalizeChars (path : List Char) : follow (normalizeChars path) = follow path := by
  rw [follow, isRooted_normalizeChars, split_normalizeChars, List.append_assoc, foldl_root,
    List.foldl_append, (settled_follow path).foldl_reverse, foldl_closing]

/-! ### Directories -/

/-- The directory of a path is all of it but what follows its last slash. -/
theorem directory_cases (path : List Char) :
    ('/' ∉ path ∧ directory path = []) ∨
      ∃ before last, path = before ++ '/' :: last ∧ '/' ∉ last ∧ directory path = before ++ ['/'] := by
  unfold directory
  rcases h : cutLast? '/' path with _ | ⟨before, last⟩
  · exact Or.inl ⟨cutLast?_eq_none_iff.mp h, rfl⟩
  · obtain ⟨hpath, hlast⟩ := cutLast?_eq_some_iff.mp h
    exact Or.inr ⟨before, last, hpath, hlast, rfl⟩

/-- The directory of a path is the path up to somewhere. -/
theorem directory_start (path : List Char) : directory path <+: path := by
  rcases directory_cases path with ⟨-, hdir⟩ | ⟨before, last, rfl, -, hdir⟩
  · rw [hdir]
    exact List.nil_prefix
  · rw [hdir]
    exact ⟨last, by simp⟩

/-- What is added to the last segment has no part in the directory. -/
theorem directory_append {path ending : List Char} (h : '/' ∉ ending) :
    directory (path ++ ending) = directory path := by
  rcases directory_cases path with ⟨hslash, hdir⟩ | ⟨before, last, rfl, hlast, hdir⟩
  · rw [hdir]
    unfold directory
    rw [cutLast?_eq_none_iff.mpr (by simp [hslash, h])]
  · rw [hdir]
    unfold directory
    have hcut : cutLast? '/' (before ++ '/' :: last ++ ending) = some (before, last ++ ending) :=
      cutLast?_eq_some_iff.mpr ⟨by simp, by simp [hlast, h]⟩
    rw [hcut]

theorem isRooted_append_slash (before last : List Char) :
    isRooted (before ++ '/' :: last) = isRooted (before ++ ['/']) := by
  rcases before with _ | ⟨c, before⟩ <;> rfl

theorem isRooted_directory (path : List Char) : isRooted (directory path) = isRooted path := by
  rcases directory_cases path with ⟨hslash, hdir⟩ | ⟨before, last, rfl, -, hdir⟩
  · rw [hdir]
    rcases path with _ | ⟨c, cs⟩
    · rfl
    · have hc : c ≠ '/' := fun heq => hslash (by rw [heq]; exact List.mem_cons_self)
      simp [isRooted, hc]
  · rw [hdir]
    exact (isRooted_append_slash before last).symm

/-! ### Paths behind directories -/

/-- The segments of a path but the last, and then those of what follows its directory. -/
theorem split_directory_append (path rest : List Char) :
    split '/' (directory path ++ rest) = (split '/' path).dropLast ++ split '/' rest := by
  rcases directory_cases path with ⟨hslash, hdir⟩ | ⟨before, last, rfl, hlast, hdir⟩
  · rw [hdir, split_of_not_mem hslash]
    rfl
  · have happend : before ++ ['/'] ++ rest = before ++ '/' :: rest := by simp
    rw [hdir, happend, split_append_sep, split_append_sep, split_of_not_mem hlast,
      List.dropLast_concat]

theorem split_directory (path : List Char) :
    split '/' (directory path) = (split '/' path).dropLast ++ [[]] := by
  have happend := split_directory_append path []
  rwa [List.append_nil] at happend

/-- A path behind a directory is from the root if the directory is. -/
theorem isRooted_directory_append (path : List Char) {rest : List Char} (h : isRooted rest = false) :
    isRooted (directory path ++ rest) = isRooted path := by
  rw [← isRooted_directory path]
  rcases directory path with _ | ⟨c, cs⟩
  · exact h
  · rfl

theorem namesDirectory_directory_append (path rest : List Char) :
    namesDirectory (directory path ++ rest) = namesDirectory rest := by
  obtain ⟨front, last, hsplit, -⟩ := split_append '/' rest
  unfold namesDirectory
  rw [split_directory_append, hsplit, ← List.append_assoc, List.getLast?_concat,
    List.getLast?_concat]

/-- Following the directory of a path is following all of its segments but the last. -/
theorem follow_directory (path : List Char) :
    follow (directory path) = (split '/' path).dropLast.foldl (enter (isRooted path)) [] := by
  rw [follow, isRooted_directory, split_directory, List.foldl_append]
  exact enter_nil (isRooted path) _

/-- A reference is followed from where the directory of its base leads. -/
theorem follow_directory_append (base : List Char) {reference : List Char}
    (h : isRooted reference = false) :
    follow (directory base ++ reference) =
      (split '/' reference).foldl (enter (isRooted base)) (follow (directory base)) := by
  rw [follow, isRooted_directory_append base h, split_directory_append, List.foldl_append,
    follow_directory]

/-- The segments of a normalized path but the last are those of its directory. -/
theorem dropLast_split_normalizeChars (path : List Char) :
    (split '/' (normalizeChars path)).dropLast =
      (if isRooted path = true then [[]] else []) ++
        (if namesDirectory path = true then follow path else (follow path).tail).reverse := by
  rw [split_normalizeChars]
  by_cases h : namesDirectory path = true
  · rw [if_pos h, if_pos h, List.dropLast_concat]
  · obtain ⟨front, last, -, -, hfollow⟩ := follow_of_named (Bool.eq_false_iff.mpr h)
    rw [if_neg h, if_neg h, List.append_nil, hfollow, List.reverse_cons, ← List.append_assoc,
      List.dropLast_concat]
    rfl

/-- **Following the directory of a normalized path leaves the stack of the path**, without the
name on top of it if the path ends in one. -/
theorem follow_directory_normalizeChars (path : List Char) :
    follow (directory (normalizeChars path)) =
      if namesDirectory path = true then follow path else (follow path).tail := by
  have hsettled := settled_follow path
  rw [follow_directory, isRooted_normalizeChars, dropLast_split_normalizeChars, foldl_root]
  by_cases h : namesDirectory path = true
  · rw [if_pos h]
    exact hsettled.foldl_reverse
  · rw [if_neg h]
    exact hsettled.tail.foldl_reverse

end Path

end ModuleLoader
