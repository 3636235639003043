import ModuleLoader.Text.Split

/-
A source tree held in memory.

An archive maps paths to texts.  Spellings of one path that differ by backslashes, by `./`
at the beginning or by slashes at the end mean the same file, so every path is brought
into one form before it is stored or looked up.  Files are kept in the order of their
paths.
-/

namespace ModuleLoader

namespace Archive

/-- Backslashes as slashes. -/
def toSlashes (path : List Char) : List Char := path.map fun c => if c = '\\' then '/' else c

/-- The path without any `./` at its beginning. -/
def dropDots : List Char → List Char
  | '.' :: '/' :: rest => dropDots rest
  | path => path

/-- The path without any slashes at its end. -/
def dropSlashes (path : List Char) : List Char := (path.reverse.dropWhile (· = '/')).reverse

/-- The one form of all spellings of a path. -/
def normalForm (path : String) : String :=
  String.ofList (dropSlashes (dropDots (toSlashes path.toList)))

/-- Files in strict order of their paths. -/
abbrev Sorted (entries : List (String × String)) : Prop :=
  entries.Pairwise fun a b => a.1 < b.1

/-- The entries with `path` bound to `text`. -/
def insert (path text : String) : List (String × String) → List (String × String)
  | [] => [(path, text)]
  | (p, t) :: rest =>
    if path < p then (path, text) :: (p, t) :: rest
    else if path = p then (path, text) :: rest
    else (p, t) :: insert path text rest

theorem mem_insert {path text : String} {entries : List (String × String)} {e : String × String}
    (h : e ∈ insert path text entries) : e = (path, text) ∨ e ∈ entries := by
  induction entries with
  | nil => simpa [insert] using h
  | cons head rest ih =>
    obtain ⟨p, t⟩ := head
    unfold insert at h
    split at h
    · simpa using h
    · split at h
      · rcases List.mem_cons.1 h with h | h
        · exact .inl h
        · exact .inr (by simp [h])
      · rcases List.mem_cons.1 h with h | h
        · exact .inr (by simp [h])
        · rcases ih h with h | h
          · exact .inl h
          · exact .inr (by simp [h])

/-- Of two different paths one comes first. -/
theorem lt_of_not_lt_of_ne {a b : String} (h : ¬ a < b) (hne : a ≠ b) : b < a := by
  rcases Decidable.em (b < a) with hb | hb
  · exact hb
  · exact absurd (String.le_antisymm hb h) hne

theorem Sorted.insert {path text : String} {entries : List (String × String)}
    (h : Sorted entries) : Sorted (Archive.insert path text entries) := by
  induction entries with
  | nil => simp [Archive.insert, Sorted]
  | cons head rest ih =>
    obtain ⟨p, t⟩ := head
    have hp := List.pairwise_cons.1 h
    unfold Archive.insert
    split
    · next hlt =>
      refine List.pairwise_cons.2 ⟨?_, h⟩
      intro e he
      rcases List.mem_cons.1 he with rfl | he
      · exact hlt
      · exact Std.lt_trans hlt (hp.1 e he)
    · split
      · next heq => subst heq; exact List.pairwise_cons.2 hp
      · next hlt hne =>
        refine List.pairwise_cons.2 ⟨?_, ih hp.2⟩
        intro e he
        rcases mem_insert he with rfl | he
        · exact lt_of_not_lt_of_ne hlt hne
        · exact hp.1 e he

end Archive

/-- A source tree held in memory. -/
structure Archive where
  /-- The files in order of their paths. -/
  files : List (String × String) := []
  sorted : Archive.Sorted files := by simp

namespace Archive

/-- Two archives with the same files are the same archive. -/
instance : DecidableEq Archive := fun a b =>
  if h : a.files = b.files then .isTrue (by cases a; cases b; simpa using h)
  else .isFalse (by rintro rfl; exact h rfl)

/-- The archive without files. -/
def empty : Archive := {}

/-- Adds a file or replaces it. -/
def addFile (archive : Archive) (path text : String) : Archive :=
  ⟨insert (normalForm path) text archive.files, Sorted.insert archive.sorted⟩

/-- An archive of some files; a later one replaces an earlier one. -/
def ofFiles (files : List (String × String)) : Archive :=
  files.foldl (fun archive (path, text) => archive.addFile path text) empty

/-- The text of the file at a path. -/
def findFile (archive : Archive) (path : String) : Option String :=
  archive.files.lookup (normalForm path)

/-- Whether there is a file at a path. -/
def contains (archive : Archive) (path : String) : Bool := (archive.findFile path).isSome

/-- The paths in order. -/
def paths (archive : Archive) : List String := archive.files.map Prod.fst

/-- The number of files. -/
def size (archive : Archive) : Nat := archive.files.length

/-- Whether there are no files. -/
def isEmpty (archive : Archive) : Bool := archive.files.isEmpty

end Archive

end ModuleLoader
