import ModuleLoader.Text.Split

/-
Kinds of modules, told by the suffix of their name.

A module that runs has the compiled suffix, and the source it can be made from has the
source suffix in the same place.  Only the end of a name is ever rewritten.
-/

namespace ModuleLoader

/-- What a specifier asks for. -/
inductive ModuleKind where
  /-- To be compiled before it can run. -/
  | source
  /-- Ready to run, or made on demand from a source. -/
  | compiled
  /-- Anything else. -/
  | other
  deriving Repr, DecidableEq

/-- The suffixes of compiled and of source modules. -/
structure SuffixConvention where
  compiled : String
  source : String
  deriving Repr, DecidableEq

namespace SuffixConvention

open Text

/-- A name with the suffix `new` in place of `old`, if it has that. -/
def exchange (old new name : String) : Option String :=
  (dropEnd? old.toList name.toList).map fun stem => String.ofList (stem ++ new.toList)

/-- Whether a name ends in a suffix. -/
def hasSuffix (suffix name : String) : Bool := (dropEnd? suffix.toList name.toList).isSome

/-- The kind of a name; the compiled suffix is looked at first. -/
def kindOf (convention : SuffixConvention) (name : String) : ModuleKind :=
  if hasSuffix convention.compiled name then .compiled
  else if hasSuffix convention.source name then .source
  else .other

/-- The name of the source that a compiled name is made from. -/
def sourceCounterpart (convention : SuffixConvention) (name : String) : Option String :=
  exchange convention.compiled convention.source name

/-- The name of what a source is compiled to. -/
def compiledCounterpart (convention : SuffixConvention) (name : String) : Option String :=
  exchange convention.source convention.compiled name

theorem exchange_eq_some_iff {old new name result : String} :
    exchange old new name = some result ↔ ∃ stem, name = stem ++ old ∧ result = stem ++ new := by
  unfold exchange
  rw [Option.map_eq_some_iff]
  constructor
  · rintro ⟨stem, hstem, rfl⟩
    refine ⟨String.ofList stem, ?_, ?_⟩ <;> apply String.toList_inj.1
    · simp [dropEnd?_eq_some_iff.1 hstem]
    · simp
  · rintro ⟨stem, rfl, rfl⟩
    refine ⟨stem.toList, ?_, ?_⟩
    · rw [dropEnd?_eq_some_iff]; simp
    · apply String.toList_inj.1; simp

/-- A name with the compiled suffix is that of a module that runs. -/
theorem kindOf_of_suffix {convention : SuffixConvention} {name : String}
    (h : convention.compiled.toList <:+ name.toList) : convention.kindOf name = .compiled := by
  obtain ⟨stem, hstem⟩ := h
  have hsuffix : hasSuffix convention.compiled name = true :=
    Option.isSome_iff_exists.mpr ⟨stem, dropEnd?_eq_some_iff.mpr hstem.symm⟩
  unfold kindOf
  rw [if_pos hsuffix]

end SuffixConvention

end ModuleLoader
