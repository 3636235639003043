import ModuleLoader.IoError
import ModuleLoader.Text.Split

/-
A tree of files as a value.

The tree binds absolute locations, written as lists of names, to files, directories and
symbolic links.  A path is followed name by name: every name but the last has to lead to a
directory, `.` and an empty name stay, `..` goes up and stays at the root, and a link is
followed to where it points, at most forty times on one path.

Reading and writing are functions on the tree; writing gives the tree that results.

There are no permissions, no devices and no limits of space.  So whatever is there can be read and
written, and failures of these kinds do not arise.
-/

namespace ModuleLoader

/-- What a location holds. -/
inductive FileEntry where
  | file (bytes : ByteArray)
  | directory
  | link (target : String)

instance : DecidableEq FileEntry
  | .file a, .file b =>
    if h : a.data = b.data then .isTrue (congrArg FileEntry.file (ByteArray.ext h))
    else .isFalse fun heq => h (congrArg ByteArray.data (FileEntry.file.inj heq))
  | .directory, .directory => .isTrue rfl
  | .link a, .link b =>
    if h : a = b then .isTrue (congrArg FileEntry.link h)
    else .isFalse fun heq => h (FileEntry.link.inj heq)
  | .file _, .directory => .isFalse nofun
  | .file _, .link _ => .isFalse nofun
  | .directory, .file _ => .isFalse nofun
  | .directory, .link _ => .isFalse nofun
  | .link _, .file _ => .isFalse nofun
  | .link _, .directory => .isFalse nofun

/-- A place in the tree, from the root down. -/
abbrev FileTree.Location := List String

/-- A tree of files. -/
structure FileTree where
  entries : List (FileTree.Location × FileEntry) := []
  deriving DecidableEq

namespace FileTree

open Text

/-! ### Locations and entries -/

/-- The names of a path in order, empty ones included. -/
def names (path : String) : List String := (split '/' path.toList).map String.ofList

/-- Whether a path starts at the root. -/
def isRooted (path : String) : Bool := path.toList.head? = some '/'

/-- The names to follow from the root for a path that is used in the directory `here`. -/
def fromRoot (here : Location) (path : String) : List String :=
  if isRooted path then names path else here ++ names path

/-- The entry at a location; the root is always a directory. -/
def entry? (tree : FileTree) (location : Location) : Option FileEntry :=
  if location = [] then some .directory else tree.entries.lookup location

/-- The tree with an entry at a location, in place of any other there. -/
def put (tree : FileTree) (location : Location) (entry : FileEntry) : FileTree :=
  ⟨(tree.entries.filter fun e => e.1 ≠ location) ++ [(location, entry)]⟩

/-- The tree without a location and all below it. -/
def erase (tree : FileTree) (location : Location) : FileTree :=
  ⟨tree.entries.filter fun e => !location.isPrefixOf e.1⟩

/-! ### Following a path -/

/-- Where a path leads. -/
inductive Destination where
  /-- To an entry. -/
  | found (location : Location)
  /-- To a directory that lacks the next name; more names may follow it. -/
  | missing (location : Location) (more : List String)
  deriving Repr, DecidableEq

/-- No name is longer than this many bytes. -/
def nameLimit : Nat := 255

/-- No path is longer than this many bytes. -/
def pathLimit : Nat := 4095

/-- No path leads through more links than this. -/
def linkLimit : Nat := 40

/-- Follows names from the location `here`, through at most `links` links.  A link at the
end is followed only if `follow`. -/
def walk (tree : FileTree) (follow : Bool) (links : Nat) (here : Location) (path : List String) :
    Except IoError Destination :=
  match path with
  | [] => .ok (.found here)
  | name :: rest =>
    if tree.entry? here ≠ some .directory then .error .notDirectory
    else if name = "" ∨ name = "." then walk tree follow links here rest
    else if name = ".." then walk tree follow links here.dropLast rest
    else if name.utf8ByteSize > nameLimit then .error .nameTooLong
    else
      match tree.entry? (here ++ [name]) with
      | none => .ok (.missing (here ++ [name]) rest)
      | some (.link target) =>
        if rest = [] ∧ !follow then .ok (.found (here ++ [name]))
        else
          match links with
          | 0 => .error .tooManyLinks
          | links + 1 =>
            walk tree follow links (if isRooted target then [] else here) (names target ++ rest)
      | some _ => walk tree follow links (here ++ [name]) rest
termination_by (links, path.length)

/-- The byte length of a path in writing. -/
def writtenLength (path : List String) : Nat :=
  path.foldl (fun sum name => sum + (name.utf8ByteSize + 1)) 0 - 1

/-- Where a path from the root leads. -/
def locate (tree : FileTree) (follow : Bool) (path : List String) : Except IoError Destination :=
  if path.any fun name => name.toList.contains '\x00' then .error .nulInName
  else if writtenLength path > pathLimit then .error .nameTooLong
  else walk tree follow linkLimit [] path

/-! ### Reading -/

/-- The entry that a path leads to. -/
def stat (tree : FileTree) (path : List String) : Except IoError (Location × FileEntry) :=
  match tree.locate true path with
  | .error e => .error e
  | .ok (.missing _ _) => .error .noSuchFile
  | .ok (.found location) =>
    match tree.entry? location with
    | some entry => .ok (location, entry)
    | none => .error .noSuchFile

/-- Whether a path leads to a file. -/
def isFile (tree : FileTree) (path : List String) : Bool :=
  match tree.stat path with
  | .ok (_, .file _) => true
  | _ => false

/-- Whether a path leads to a directory. -/
def isDirectory (tree : FileTree) (path : List String) : Bool :=
  match tree.stat path with
  | .ok (_, .directory) => true
  | _ => false

/-- The bytes of the file that a path leads to. -/
def read (tree : FileTree) (path : List String) : Except IoError ByteArray :=
  match tree.stat path with
  | .error e => .error e
  | .ok (_, .file bytes) => .ok bytes
  | .ok _ => .error .isDirectory

/-- The text of the file that a path leads to. -/
def readText (tree : FileTree) (path : List String) : Except IoError String :=
  match tree.read path with
  | .error e => .error e
  | .ok bytes =>
    match String.fromUTF8? bytes with
    | some text => .ok text
    | none => .error .notText

/-- The names directly below a location, in order. -/
def childNames (tree : FileTree) (location : Location) : List String :=
  let below := tree.entries.filterMap fun (l, _) =>
    if l.dropLast = location then l.getLast? else none
  below.mergeSort fun a b => a < b || a = b

/-- The names in the directory that a path leads to. -/
def list (tree : FileTree) (path : List String) : Except IoError (List String) :=
  match tree.stat path with
  | .error e => .error e
  | .ok (location, .directory) => .ok (tree.childNames location)
  | .ok _ => .error .notDirectory

/-! ### Writing -/

/-- Writes a file, which is made if its directory exists. -/
def write (tree : FileTree) (path : List String) (bytes : ByteArray) : Except IoError FileTree :=
  match tree.locate true path with
  | .error e => .error e
  | .ok (.missing location more) =>
    if more = [] then .ok (tree.put location (.file bytes))
    else if more.all (· = "") then .error .isDirectory
    else .error .noSuchFile
  | .ok (.found location) =>
    if tree.entry? location = some .directory then .error .isDirectory
    else .ok (tree.put location (.file bytes))

/-- Makes one directory. -/
def makeDirectory (tree : FileTree) (path : List String) : Except IoError FileTree :=
  match tree.locate false path with
  | .error e => .error e
  | .ok (.found _) => .error .fileExists
  | .ok (.missing location more) =>
    if more.all (· = "") then .ok (tree.put location .directory) else .error .noSuchFile

/-- The names of a path that count: neither empty nor `.`. -/
def plainNames (path : List String) : List String := path.filter fun name => name ≠ "" ∧ name ≠ "."

/-- Makes a directory and those that lead to it, as far as they do not exist.  What could
be made stays, also if the rest could not. -/
def makeDirectories (tree : FileTree) (path : List String) : FileTree × Option IoError :=
  go path.length tree (plainNames path)
where
  /-- At most `count` directories are made on the way. -/
  go (count : Nat) (tree : FileTree) (path : List String) : FileTree × Option IoError :=
    match tree.makeDirectory path with
    | .ok tree => (tree, none)
    | .error e =>
      if e = .noSuchFile then
        match count with
        | 0 => (tree, some e)
        | count + 1 =>
          match go count tree path.dropLast with
          | (tree, some e) => (tree, some e)
          | (tree, none) =>
            match tree.makeDirectory path with
            | .ok tree => (tree, none)
            | .error e => (tree, if tree.isDirectory path then none else some e)
      else (tree, if tree.isDirectory path then none else some e)

/-- Makes a symbolic link. -/
def makeLink (tree : FileTree) (path : List String) (target : String) : Except IoError FileTree :=
  match tree.locate false path with
  | .error e => .error e
  | .ok (.missing location []) => .ok (tree.put location (.link target))
  | .ok (.missing _ _) => .error .noSuchFile
  | .ok (.found _) => .error .fileExists

/-- Removes a file or a link. -/
def remove (tree : FileTree) (path : List String) : Except IoError FileTree :=
  match tree.locate false path with
  | .error e => .error e
  | .ok (.missing _ _) => .error .noSuchFile
  | .ok (.found location) =>
    if tree.entry? location = some .directory then .error .isDirectory else .ok (tree.erase location)

/-! ### Whole directories -/

/-- The files below a location in the order of their paths, with the names that lead to
them.  Links to files count as files, links to directories are left out. -/
def filesBelow (tree : FileTree) (location : Location) : List (List String × FileEntry) :=
  let below := tree.entries.filterMap fun (l, entry) =>
    if location.isPrefixOf l && l ≠ location && entry ≠ .directory then
      some (l.drop location.length, entry)
    else none
  below.mergeSort fun a b => "/".intercalate a.1 ≤ "/".intercalate b.1

end FileTree

end ModuleLoader
