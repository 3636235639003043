import ModuleLoader.Shell.Session

/-
What becomes of the words of a command.

Parameters and the output of scripts are put in, and what was put in outside quotes is split
into fields at white space.  A word whose value is empty gives no field, unless something in
it was quoted.
-/

namespace ModuleLoader.Shell

/-- A part of an expanded word. -/
inductive Glyph where
  /-- A character that stays in its field. -/
  | fixed (c : Char)
  /-- A character that ends a field if it is white space. -/
  | loose (c : Char)
  /-- A quoted stretch: there is a field even if it is empty. -/
  | present
  /-- The end of a field. -/
  | boundary
  deriving Repr, DecidableEq

namespace Glyph

/-- White space at which fields are split. -/
def splits (c : Char) : Bool := c = ' ' || c = '\t' || c = '\n'

/-- The glyphs of a value that was put in. -/
def ofValue (quoted : Bool) (value : List Char) : List Glyph :=
  if quoted then .present :: value.map .fixed else value.map .loose

/-- The fields that glyphs make; `field` is the one begun, backwards. -/
def fieldsFrom : Option (List Char) → List Glyph → List (List Char)
  | field, [] => (field.map List.reverse).toList
  | field, .fixed c :: rest => fieldsFrom (some (c :: field.getD [])) rest
  | field, .loose c :: rest =>
    if splits c then (field.map List.reverse).toList ++ fieldsFrom none rest
    else fieldsFrom (some (c :: field.getD [])) rest
  | field, .present :: rest => fieldsFrom (some (field.getD [])) rest
  | field, .boundary :: rest => (field.map List.reverse).toList ++ fieldsFrom none rest

/-- The fields that glyphs make. -/
def fields (glyphs : List Glyph) : List (List Char) := fieldsFrom none glyphs

/-- The characters alone. -/
def characters (glyphs : List Glyph) : List Char :=
  glyphs.filterMap fun
    | .fixed c => some c
    | .loose c => some c
    | .present => none
    | .boundary => some ' '

end Glyph

namespace Session

/-- The number that a shell has among the programs of the machine. -/
def processNumber : List Char := "4711".toList

/-- The glyphs of a parameter.  Behind a name, `-` stands before the text to take if there
is no such variable, and `:-` before the text to take if its value is empty as well; before
a name, `#` asks for the length of the value. -/
def parameterGlyphs (s : Session) (name : List Char) (quoted : Bool) : List Glyph :=
  let each (value : List Char) := Glyph.ofValue quoted value
  match name with
  | ['@'] => (List.intersperse [.boundary] (s.parameters.map each)).flatten
  | ['*'] =>
    if quoted then each (List.intersperse [' '] s.parameters).flatten
    else (List.intersperse [.boundary] (s.parameters.map each)).flatten
  | ['#'] => each (toString s.parameters.length).toList
  | ['?'] => each (toString s.status).toList
  | ['$'] => each processNumber
  | ['!'] | ['-'] => each []
  | _ =>
    if name = ['0'] then each s.name
    else if !name.isEmpty && name.all Char.isDigit then
      each ((s.parameters[(String.ofList name).toNat?.getD 0 - 1]?).getD [])
    else if name = "IFS".toList then each ((s.value? name).getD " \t\n".toList)
    else if name.head? = some '#' then
      each (toString ((s.value? name.tail).getD []).length).toList
    else
      match Text.cut? '-' name with
      | none => each ((s.value? name).getD [])
      | some (plain, fallback) =>
        if plain.getLast? = some ':' then
          let value := (s.value? plain.dropLast).getD []
          each (if value.isEmpty then fallback else value)
        else each ((s.value? plain).getD fallback)

end Session

end ModuleLoader.Shell
