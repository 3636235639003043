/-
TOML documents as trees.

A table remembers how it came to be, because that decides who may still add to it: a
header opens a table once, a table that only lies on the way to another may be opened
later, and one made by a dotted key belongs to the lines beside that key.
-/

namespace ModuleLoader.Toml

/-- How a table came to be. -/
inductive Origin where
  /-- Opened by a header. -/
  | opened
  /-- Lies on the way to a table that a header opened. -/
  | passed
  /-- Made by a dotted key. -/
  | dotted
  deriving Repr, DecidableEq

/-- What a key can be bound to. -/
inductive Item where
  | text (s : String)
  | integer (n : Int)
  | float
  | boolean (b : Bool)
  | time
  | array (items : List Item)
  | inlineTable (entries : List (String × Item))
  | table (origin : Origin) (entries : List (String × Item))
  | tables (list : List (List (String × Item)))
  deriving Repr

/-- The bindings of a table in the order they were written. -/
abbrev Entries := List (String × Item)

/-- The item bound to a key. -/
def Entries.get? (entries : Entries) (key : String) : Option Item :=
  (entries.find? fun entry => entry.1 = key).map Prod.snd

/-- The bindings with `key` bound to `item`, in its old place if it has one. -/
def Entries.set (key : String) (item : Item) : Entries → Entries
  | [] => [(key, item)]
  | (k, old) :: rest => if k = key then (k, item) :: rest else (k, old) :: Entries.set key item rest

/-- The bindings without that of `key`. -/
def Entries.erase (entries : Entries) (key : String) : Entries :=
  entries.filter fun entry => entry.1 ≠ key

/-- Binds a key that is still free. -/
def Entries.addNew (key : String) (item : Item) (entries : Entries) : Option Entries :=
  if (Entries.get? entries key).isSome then none else some (entries ++ [(key, item)])

/-- Changes the table that a path leads to from `entries`, making tables of `origin` where
there is none.  In an array of tables the path goes through the last one. -/
def Entries.descend (origin : Origin) (change : Origin → Entries → Option Entries) :
    Origin → List String → Entries → Option Entries
  | here, [], entries => change here entries
  | _, key :: path, entries =>
    match Entries.get? entries key with
    | none => do
      let child ← Entries.descend origin change origin path []
      return Entries.set key (.table origin child) entries
    | some (.table old child) => do
      if origin = .dotted ∧ old = .opened then none
      let child ← Entries.descend origin change old path child
      return Entries.set key (.table old child) entries
    | some (.tables list) => do
      let last ← list.getLast?
      let child ← Entries.descend origin change .opened path last
      return Entries.set key (.tables (list.dropLast ++ [child])) entries
    | some _ => none

/-- Binds the key at the end of a dotted path.  Only tables that dotted keys have made may
be extended in this way. -/
def Entries.bind (path : List String) (key : String) (item : Item) (entries : Entries) :
    Option Entries :=
  Entries.descend .dotted (fun here table =>
    if (here == .dotted) == path.isEmpty then none else Entries.addNew key item table)
    .opened path entries

end ModuleLoader.Toml
