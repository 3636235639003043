/-
Cutting text at separators and putting it together again.

Everything here works on `List Char`, the view of text that the rest of the library
reasons about.  A cut keeps every character that is not the separator, so `join` undoes
`split`, and a text without the separator is a single piece.
-/

namespace ModuleLoader.Text

/-- The pieces between occurrences of `sep`; there is always at least one. -/
def split (sep : Char) : List Char → List (List Char)
  | [] => [[]]
  | c :: r =>
    if c = sep then [] :: split sep r
    else match split sep r with
      | [] => [[c]]
      | piece :: pieces => (c :: piece) :: pieces

/-- Pieces with one `sep` between neighbours. -/
def join (sep : Char) : List (List Char) → List Char
  | [] => []
  | [piece] => piece
  | piece :: next :: pieces => piece ++ sep :: join sep (next :: pieces)

theorem split_ne_nil (sep : Char) (cs : List Char) : split sep cs ≠ [] := by
  cases cs with
  | nil => simp [split]
  | cons c r => unfold split; split <;> (try split) <;> simp

/-- Cutting loses nothing. -/
theorem join_split (sep : Char) (cs : List Char) : join sep (split sep cs) = cs := by
  induction cs with
  | nil => rfl
  | cons c r ih =>
    unfold split
    split
    · next h =>
      cases hs : split sep r with
      | nil => exact absurd hs (split_ne_nil sep r)
      | cons p ps => simp [join, ← hs, ih, h]
    · cases hs : split sep r with
      | nil => exact absurd hs (split_ne_nil sep r)
      | cons p ps =>
        cases ps with
        | nil => simpa [join, hs] using ih
        | cons q qs => simpa [join, hs] using ih

/-- No piece holds the separator. -/
theorem not_mem_of_mem_split {sep : Char} {cs piece : List Char}
    (h : piece ∈ split sep cs) : sep ∉ piece := by
  induction cs generalizing piece with
  | nil => simp_all [split]
  | cons c r ih =>
    unfold split at h
    split at h
    · rcases List.mem_cons.1 h with rfl | h
      · simp
      · exact ih h
    · next hc =>
      cases hs : split sep r with
      | nil => exact absurd hs (split_ne_nil sep r)
      | cons p ps =>
        rw [hs] at h
        rcases List.mem_cons.1 h with rfl | h
        · have hp : p ∈ split sep r := by simp [hs]
          simp [ih hp, Ne.symm hc]
        · exact ih (by simp [hs, h])

/-- What remains of `cs` when it begins with `start`. -/
def dropStart? : (start cs : List Char) → Option (List Char)
  | [], cs => some cs
  | _ :: _, [] => none
  | a :: start, c :: cs => if a = c then dropStart? start cs else none

/-- What remains of `cs` when it ends with `ending`. -/
def dropEnd? (ending cs : List Char) : Option (List Char) :=
  (dropStart? ending.reverse cs.reverse).map List.reverse

theorem dropStart?_eq_some_iff {start cs rest : List Char} :
    dropStart? start cs = some rest ↔ cs = start ++ rest := by
  induction start generalizing cs with
  | nil => simp [dropStart?, eq_comm]
  | cons a start ih =>
    cases cs with
    | nil => simp [dropStart?]
    | cons c cs =>
      by_cases h : a = c
      · subst h; simp [dropStart?, ih]
      · simp [dropStart?, h, Ne.symm h]

theorem dropEnd?_eq_some_iff {ending cs rest : List Char} :
    dropEnd? ending cs = some rest ↔ cs = rest ++ ending := by
  unfold dropEnd?
  constructor
  · intro h
    obtain ⟨u, hu, rfl⟩ := Option.map_eq_some_iff.1 h
    have := congrArg List.reverse (dropStart?_eq_some_iff.1 hu)
    simpa using this
  · rintro rfl
    refine Option.map_eq_some_iff.2 ⟨rest.reverse, ?_, by simp⟩
    rw [dropStart?_eq_some_iff]; simp

/-- The text before the first occurrence of `sep` and the text after it. -/
def cut? (sep : Char) : List Char → Option (List Char × List Char)
  | [] => none
  | c :: r =>
    if c = sep then some ([], r)
    else (cut? sep r).map fun (before, after) => (c :: before, after)

/-- The text before the last occurrence of `sep` and the text after it. -/
def cutLast? (sep : Char) (cs : List Char) : Option (List Char × List Char) :=
  (cut? sep cs.reverse).map fun (after, before) => (before.reverse, after.reverse)

/-- The text before the first occurrence of `find` and the text after it. -/
def cutAt? (find : List Char) : List Char → Option (List Char × List Char)
  | [] => if find.isEmpty then some ([], []) else none
  | c :: r =>
    match dropStart? find (c :: r) with
    | some after => some ([], after)
    | none => (cutAt? find r).map fun (before, after) => (c :: before, after)

theorem length_of_dropStart? {start cs rest : List Char} (h : dropStart? start cs = some rest) :
    cs.length = start.length + rest.length := by
  rw [dropStart?_eq_some_iff.1 h, List.length_append]

/-- Every occurrence of `find`, taken from the left, replaced by `new`.  The empty text
occurs nowhere. -/
def replaceAll (find new : List Char) : List Char → List Char
  | [] => []
  | c :: r =>
    match _h : dropStart? find (c :: r) with
    | some rest =>
      if _hf : find = [] then c :: replaceAll find new r else new ++ replaceAll find new rest
    | none => c :: replaceAll find new r
termination_by cs => cs.length
decreasing_by
  · simp
  · have := length_of_dropStart? _h
    have : 0 < find.length := List.length_pos_iff.2 _hf
    omega
  · simp

/-- Whether `find` occurs in `cs`. -/
def occursIn (find : List Char) : List Char → Bool
  | [] => find.isEmpty
  | c :: r => (dropStart? find (c :: r)).isSome || occursIn find r

end ModuleLoader.Text
