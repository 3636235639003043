import ModuleLoader.Text.Split

/-
Logical paths: slash-separated names inside an archive.

A path is read segment by segment against a stack of the directories entered so far.
`..` leaves the innermost one; at the top it stays put in an absolute path and is kept in
a relative one, so that a relative path may climb above its start.  `normalize` writes
that stack down again.
-/

namespace ModuleLoader.Path

open Text

/-- A piece of a path between two slashes. -/
abbrev Segment := List Char

/-- A path that starts at the root. -/
def isRooted (path : List Char) : Bool := path.head? = some '/'

/-- The stack of segments after one more; the innermost segment comes first. -/
def enter (rooted : Bool) (stack : List Segment) (segment : Segment) : List Segment :=
  if segment = [] ∨ segment = ['.'] then stack
  else if segment = ['.', '.'] then
    match stack with
    | top :: rest => if top = ['.', '.'] then (if rooted then stack else segment :: stack) else rest
    | [] => if rooted then [] else [segment]
  else segment :: stack

/-- The segments that are left when all dot segments have been followed. -/
def resolveDots (rooted : Bool) (segments : List Segment) : List Segment :=
  (segments.foldl (enter rooted) []).reverse

/-- A path whose last segment is empty or a dot segment names a directory. -/
def namesDirectory (path : List Char) : Bool :=
  (split '/' path).getLast? ∈ [some [], some ['.'], some ['.', '.']]

/-- The path with its dot segments followed and its empty segments dropped.  A directory
keeps its closing slash unless nothing is left of it. -/
def normalizeChars (path : List Char) : List Char :=
  let segments := resolveDots (isRooted path) (split '/' path)
  (if isRooted path then ['/'] else []) ++ join '/' segments ++
    (if namesDirectory path && !segments.isEmpty then ['/'] else [])

/-- The path with its dot segments followed and its empty segments dropped. -/
def normalize (path : String) : String := String.ofList (normalizeChars path.toList)

/-- The text of a path up to and with its last slash: the directory it lies in. -/
def directory (path : List Char) : List Char :=
  match cutLast? '/' path with
  | some (before, _) => before ++ ['/']
  | none => []

end ModuleLoader.Path
