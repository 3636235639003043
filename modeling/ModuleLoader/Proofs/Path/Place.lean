/-
Where a path leads.

A place is told as it is reached from a start: so many levels up, and then down along names.
Walking a path needs no normal form for that.  `..` leaves a name, and where there is none it
climbs, except at the root.

Walking is one of the readings that normalizing does not change, so a path and its normal form
lead to the same place.  Seen from the start itself, a place shows the stack of the path that
leads there (`walk_here`), and so paths that lead to the same places have the same segments in
normal form.
-/
import ModuleLoader.Proofs.Path.Normalized

namespace ModuleLoader.Path

open Text

/-! ### Places -/

/-- A place: so many levels above a start, and then down along names, of which the innermost
comes first. -/
structure Place where
  up : Nat
  names : List Segment
  deriving Repr, DecidableEq

namespace Place

/-- The start itself. -/
def here : Place := ⟨0, []⟩

/-- The place after one more segment. -/
def enter (rooted : Bool) (place : Place) (segment : Segment) : Place :=
  if segment = [] ∨ segment = ['.'] then place
  else if segment = ['.', '.'] then
    match place.names with
    | _ :: outer => ⟨place.up, outer⟩
    | [] => if rooted then place else ⟨place.up + 1, []⟩
  else ⟨place.up, segment :: place.names⟩

theorem walks_enter (rooted : Bool) : Walks (enter rooted) where
  skip place s hs := by
    unfold enter
    rw [if_pos hs]
  back place s hs := by
    unfold enter
    simp [hs.nonempty, hs.notDot, hs.notUp]

theorem enter_ordinary {segment : Segment} (h : Ordinary segment) (rooted : Bool) (place : Place) :
    place.enter rooted segment = ⟨place.up, segment :: place.names⟩ := by
  unfold enter
  rw [if_neg (not_or.mpr ⟨h.nonempty, h.notDot⟩), if_neg h.notUp]

/-- Names are entered one after the other. -/
theorem foldl_names {names : List Segment} (h : ∀ s ∈ names, Ordinary s) (rooted : Bool) :
    ∀ place : Place, names.foldl (enter rooted) place = ⟨place.up, names.reverse ++ place.names⟩ := by
  induction names with
  | nil => intro place; rfl
  | cons name rest ih =>
      intro place
      rw [List.foldl_cons, enter_ordinary (h name List.mem_cons_self),
        ih (fun s hs => h s (List.mem_cons_of_mem _ hs)), List.reverse_cons, List.append_assoc]
      rfl

/-- Climbing leaves the names of a place one by one, and goes on above them. -/
theorem foldl_climbs (climbs : Nat) :
    ∀ place : Place, (List.replicate climbs ['.', '.']).foldl (enter false) place
      = ⟨place.up + (climbs - place.names.length), place.names.drop climbs⟩ := by
  induction climbs with
  | zero => intro place; simp
  | succ climbs ih =>
      rintro ⟨up, names⟩
      rw [List.replicate_succ, List.foldl_cons, ih]
      rcases names with _ | ⟨top, outer⟩
      · simp only [enter, List.cons_ne_nil, List.cons.injEq, and_false, or_self, if_false, if_true,
          Bool.false_eq_true, List.length_nil, List.drop_nil, Nat.sub_zero]
        rw [Nat.add_assoc, Nat.add_comm 1]
      · simp [enter]

end Place

/-! ### Walking -/

/-- The place that a path leads to from a place.  A path from the root leads from there. -/
def walk (start : Place) (path : List Char) : Place :=
  (split '/' path).foldl (Place.enter (isRooted path)) (if isRooted path then .here else start)

/-- Nothing is above where a path from the root starts. -/
theorem enter_start (start : Place) {path : List Char} (h : isRooted path = true) :
    (if isRooted path then Place.here else start).enter (isRooted path) ['.', '.']
      = if isRooted path then .here else start := by
  rw [h]
  rfl

/-- **A path and its normal form lead to the same place.** -/
theorem walk_normalizeChars (start : Place) (path : List Char) :
    walk start (normalizeChars path) = walk start path := by
  unfold walk
  rw [isRooted_normalizeChars]
  exact (Place.walks_enter _).foldl_normalizeChars (enter_start start)

/-- Where a path leads is read off the stack that following it leaves. -/
theorem walk_eq {path : List Char} {climbs : Nat} {names : List Segment}
    (hfollow : follow path = names ++ List.replicate climbs ['.', '.'])
    (hnames : ∀ s ∈ names, Ordinary s) (hroot : isRooted path = true → climbs = 0) (start : Place) :
    walk start path = if isRooted path then ⟨0, names⟩
      else ⟨start.up + (climbs - start.names.length), names ++ start.names.drop climbs⟩ := by
  have hordinary : ∀ s ∈ names.reverse, Ordinary s := fun s hs => hnames s (List.mem_reverse.mp hs)
  unfold walk
  rw [← (Place.walks_enter _).foldl_follow (enter_start start), hfollow, List.reverse_append,
    List.reverse_replicate, List.foldl_append, Place.foldl_names hordinary, List.reverse_reverse]
  by_cases h : isRooted path = true
  · rw [hroot h, h]
    simp [Place.here]
  · rw [Bool.eq_false_iff.mpr h]
    simp only [Bool.false_eq_true, if_false, Place.foldl_climbs]

/-- From the start itself the place shows the stack. -/
theorem walk_here {path : List Char} :
    follow path = (walk .here path).names ++ List.replicate (walk .here path).up ['.', '.'] := by
  obtain ⟨climbs, names, hfollow, hnames, hroot⟩ := (settled_follow path).shape
  rw [walk_eq hfollow hnames hroot, hfollow]
  by_cases h : isRooted path = true
  · simp [h, hroot h]
  · simp [h, Place.here]

/-- Two paths lead to the same places if and only if following them leaves the same stack. -/
theorem walk_eq_iff {path other : List Char} (hroot : isRooted other = isRooted path) :
    (∀ start, walk start other = walk start path) ↔ follow other = follow path := by
  constructor
  · intro h
    rw [walk_here, h, ← walk_here]
  · intro h start
    unfold walk
    rw [← (Place.walks_enter _).foldl_follow (enter_start start),
      ← (Place.walks_enter _).foldl_follow (enter_start start), h, hroot]

/-! ### Normal forms and places -/

/-- **Normalizing gives the normal form that leads to the same places**, and there is one for all
paths that do: of two paths, both from the root or both not, the normal forms have the same
segments if and only if the paths lead to the same place from everywhere. -/
theorem normalize_canonical (path : String) :
    Normalized (normalize path).toList ∧
      isRooted (normalize path).toList = isRooted path.toList ∧
      normalize (normalize path) = normalize path ∧
      (∀ start, walk start (normalize path).toList = walk start path.toList) ∧
      ∀ other : String, isRooted other.toList = isRooted path.toList →
        ((∀ start, walk start other.toList = walk start path.toList) ↔
          parts (normalize other).toList = parts (normalize path).toList) := by
  have htext : ∀ text : String, (normalize text).toList = normalizeChars text.toList :=
    fun text => String.toList_ofList
  refine ⟨?_, ?_, ?_, ?_, ?_⟩
  · rw [htext]
    exact normalized_normalizeChars _
  · rw [htext]
    exact isRooted_normalizeChars _
  · refine String.toList_inj.mp ?_
    rw [htext, htext]
    exact normalizeChars_normalizeChars _
  · intro start
    rw [htext]
    exact walk_normalizeChars start _
  · intro other hroot
    rw [htext, htext, parts_normalizeChars, parts_normalizeChars, List.reverse_inj]
    exact walk_eq_iff hroot

end ModuleLoader.Path
