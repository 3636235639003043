import ModuleLoader.Toml.Lexeme

/-
Reading a TOML document.

A document is a sequence of statements: bindings, table headers and headers of arrays of
tables.  The table that a header opens is filled on the side and put in its place when the
next header comes, which is when it shows whether that place was still free.
-/

namespace ModuleLoader.Toml

/-! ### Values -/

/-- Items between commas up to a closing bracket; the last comma may be left out or not. -/
def arrayItems (item : Reader Item) : Nat → Reader (List Item)
  | 0, _ => none
  | n + 1, cs => do
    let cs ← skipLines cs
    match cs with
    | ']' :: rest => return ([], rest)
    | _ => do
      let (first, rest) ← item cs
      let rest ← skipLines rest
      match rest with
      | ',' :: rest => do
        let (items, rest) ← arrayItems item n rest
        return (first :: items, rest)
      | ']' :: rest => return ([first], rest)
      | _ => none

/-- A key, an equals sign and a value. -/
def binding (item : Reader Item) (cs : List Char) :
    Option ((List String × String × Item) × List Char) := do
  let (path, key, rest) ← keyPath cs
  let rest ← char '=' rest
  let (value, rest) ← item (skipSpace rest)
  return ((path, key, value), rest)

/-- Bindings between commas up to a closing brace, on one line. -/
def inlineBindings (item : Reader Item) : Nat → Entries → Reader Entries
  | 0, _, _ => none
  | n + 1, entries, cs => do
    let ((path, key, value), rest) ← binding item cs
    let entries ← Entries.bind path key value entries
    match skipSpace rest with
    | ',' :: rest => inlineBindings item n entries rest
    | '\x7d' :: rest => return (entries, rest)
    | _ => none

/-- The word `true` or `false`. -/
def boolean (cs : List Char) : Option (Item × List Char) :=
  match Text.dropStart? "true".toList cs with
  | some rest => some (.boolean true, rest)
  | none => (Text.dropStart? "false".toList cs).map fun rest => (.boolean false, rest)

/-- A value without parts. -/
def scalar (cs : List Char) : Option (Item × List Char) :=
  match cs with
  | c :: _ =>
    if c = '"' ∨ c = '\'' then (string cs).map fun (s, rest) => (.text s, rest)
    else if c.isDigit ∨ c = '+' ∨ c = '-' then
      if beginsDate cs || beginsClock cs then time cs
      else
        match float cs with
        | some result => some result
        | none => integer cs
    else if c = 'i' ∨ c = 'n' then float cs
    else boolean cs
  | [] => none

/-- A value, with at most `depth` levels of brackets. -/
def value : Nat → Reader Item
  | 0, cs => scalar cs
  | depth + 1, cs =>
    match cs with
    | '[' :: rest => do
      let (items, rest) ← arrayItems (value depth) (rest.length + 1) rest
      return (.array items, rest)
    | '\x7b' :: rest =>
      match skipSpace rest with
      | '\x7d' :: rest => some (.inlineTable [], rest)
      | rest => do
        let (entries, rest) ← inlineBindings (value depth) (rest.length + 1) [] rest
        return (.inlineTable entries, rest)
    | _ => scalar cs

/-! ### Statements -/

/-- What a header opens. -/
inductive Header where
  | table
  | arrayElement
  deriving DecidableEq

/-- A statement of a document. -/
inductive Statement where
  | bind (path : List String) (key : String) (item : Item)
  | header (kind : Header) (path : List String) (key : String)

/-- A document being read: the tables put in place, and the open one with its place. -/
structure Document where
  root : Entries
  current : Entries
  place : Option (Header × List String × String)

/-- The document before its first statement: the root itself is open. -/
def Document.empty : Document := ⟨[], [], none⟩

/-- All tables with the open one put in its place. -/
def Document.close (doc : Document) : Option Entries :=
  match doc.place with
  | none => some doc.current
  | some (.table, path, key) =>
    Entries.descend .passed (fun _ table =>
      Entries.addNew key (.table .opened doc.current) table) .opened path doc.root
  | some (.arrayElement, path, key) =>
    Entries.descend .passed (fun _ table =>
      match Entries.get? table key with
      | none => some (Entries.set key (.tables [doc.current]) table)
      | some (.tables list) => some (Entries.set key (.tables (list ++ [doc.current])) table)
      | some _ => none) .opened path doc.root

/-- The item at the end of a path of tables. -/
def Entries.find? (key : String) : List String → Entries → Option Item
  | [], entries => Entries.get? entries key
  | k :: path, entries =>
    match Entries.get? entries k with
    | some (.table _ child) => Entries.find? key path child
    | some (.tables list) => (list.getLast?).bind (Entries.find? key path)
    | _ => none

/-- Opens what a header names.  A table that so far only lay on the way is opened with what
it holds; any other one cannot be opened again. -/
def Document.openHeader (kind : Header) (path : List String) (key : String) (doc : Document) :
    Option Document := do
  let root ← doc.close
  match kind with
  | .table =>
    let found := Entries.find? key path root
    let root ← Entries.descend .passed (fun _ table =>
      match Entries.get? table key with
      | none => some table
      | some (.table .passed _) => some (Entries.erase table key)
      | some _ => none) .opened path root
    let current := match found with
      | some (.table _ entries) => entries
      | _ => []
    return ⟨root, current, some (kind, path, key)⟩
  | .arrayElement =>
    let root ← Entries.descend .passed (fun _ table =>
      match Entries.get? table key with
      | none => some table
      | some (.tables _) => some table
      | some _ => none) .opened path root
    return ⟨root, [], some (kind, path, key)⟩

/-- The document after one more statement. -/
def Document.add (doc : Document) : Statement → Option Document
  | .bind path key item => do
    let current ← Entries.bind path key item doc.current
    return { doc with current := current }
  | .header kind path key => doc.openHeader kind path key

/-- A header between its brackets; one is read already. -/
def header (cs : List Char) : Option (Statement × List Char) :=
  match cs with
  | '[' :: rest => do
    let (path, key, rest) ← keyPath rest
    let rest ← char ']' rest
    let rest ← char ']' rest
    return (.header .arrayElement path key, rest)
  | rest => do
    let (path, key, rest) ← keyPath rest
    let rest ← char ']' rest
    return (.header .table path key, rest)

/-- One statement. -/
def statement : Reader Statement
  | '[' :: rest => header rest
  | cs => do
    let ((path, key, item), rest) ← binding (value (depthLimit - 1)) cs
    return (.bind path key item, rest)

/-- The statements of a document, each on a line of its own. -/
def statements : Nat → Document → List Char → Option Document
  | 0, _, _ => none
  | n + 1, doc, cs => do
    let cs ← skipLinesToEnd cs
    if cs.isEmpty then return doc
    let (s, rest) ← statement cs
    let rest ← lineEnd? rest
    let doc ← doc.add s
    statements n doc rest
where
  /-- A comment may also end the document. -/
  skipLinesToEnd (cs : List Char) : Option (List Char) := go (cs.length + 1) cs
  go : Nat → List Char → Option (List Char)
    | 0, cs => some cs
    | n + 1, cs =>
      match skipSpace cs with
      | [] => some []
      | c :: rest =>
        if c = '#' ∨ c = '\n' ∨ c = '\r' then do
          let after ← lineEnd? (c :: rest)
          if after.isEmpty then return [] else go n after
        else some (c :: rest)

/-- The tables of a TOML document. -/
def parse (text : String) : Option Entries := do
  let cs := match text.toList with
    | '\uFEFF' :: rest => rest
    | rest => rest
  let doc ← statements (cs.length + 2) Document.empty cs
  doc.close

end ModuleLoader.Toml
