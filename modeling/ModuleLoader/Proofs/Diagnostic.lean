/-
Diagnostics and the lines they come from.

The output of a compiler is read line by line.  A line that begins a diagnostic opens a block, and
the lines after it are its notes until another one begins.  So the lines are cut up without loss:
first those before any diagnostic, and then one block for each (`Reports`).

Nothing is left open by that.  Whether a line begins a diagnostic is seen from the line alone, so
the lines can be cut up in no other way (`diagnosticsOf_eq_iff`).

The lines are those of an error's output, which is what the compiler wrote without its sentinels and
without white space at its end (`ofOutput_reports`).
-/
import ModuleLoader.Proofs.Diagnostic.Sentinel
import Mathlib.Data.List.Forall2

namespace ModuleLoader

open Text

namespace Diagnostic

/-- Notes belong to a diagnostic only after its line has been read. -/
theorem notes_of_parse {line : String} {d : Diagnostic} (h : parse line = some d) : d.notes = [] := by
  unfold parse parseChars at h
  simp only [Option.bind_eq_bind, Option.bind_eq_some_iff, Option.pure_def, Option.some.injEq] at h
  obtain ⟨-, -, -, -, rfl⟩ := h
  rfl

/-- The lines of one diagnostic: the one that begins it, and its notes. -/
structure Block (d : Diagnostic) (lines : List String) : Prop where
  first : ∃ line, lines = line :: d.notes ∧ parse line = some { d with notes := [] }
  notes : ∀ note ∈ d.notes, parse note = none

/-- A line that begins a diagnostic is a block. -/
theorem block_of_parse {line : String} {d : Diagnostic} (h : parse line = some d) :
    d.Block [line] := by
  have hnotes := notes_of_parse h
  refine ⟨⟨line, by rw [hnotes], ?_⟩, by rw [hnotes]; exact nofun⟩
  rw [h, ← hnotes]

/-- A block goes on with a line that begins no diagnostic. -/
theorem Block.concat {d : Diagnostic} {lines : List String} {line : String} (h : d.Block lines)
    (hline : parse line = none) : { d with notes := d.notes ++ [line] }.Block (lines ++ [line]) := by
  obtain ⟨⟨first, rfl, hfirst⟩, hnotes⟩ := h
  refine ⟨⟨first, rfl, hfirst⟩, ?_⟩
  intro note hnote
  rcases List.mem_append.mp hnote with hnote | hnote
  · exact hnotes note hnote
  · rw [List.mem_singleton.mp hnote]
    exact hline

end Diagnostic

namespace CompilationError

/-! ### One line -/

/-- The diagnostics after one more line. -/
def addText (found : List Diagnostic) (line : String) : List Diagnostic := addLine found line.toList

section

variable {line : String} (found : List Diagnostic)

theorem addText_of_parse {d : Diagnostic} (h : Diagnostic.parse line = some d) :
    addText found line = d :: found := by
  unfold Diagnostic.parse at h
  unfold addText addLine
  rw [h]

theorem addText_nil (h : Diagnostic.parse line = none) : addText [] line = [] := by
  unfold Diagnostic.parse at h
  unfold addText addLine
  rw [h]

theorem addText_cons (h : Diagnostic.parse line = none) (last : Diagnostic) :
    addText (last :: found) line = { last with notes := last.notes ++ [line] } :: found := by
  unfold Diagnostic.parse at h
  unfold addText addLine
  rw [h, String.ofList_toList]

end

/-! ### Lines in blocks -/

/-- Lines that begin no diagnostic, and then the blocks of some diagnostics one after the other. -/
def Reports (diagnostics : List Diagnostic) (lines : List String) : Prop :=
  ∃ before blocks, lines = before ++ blocks.flatten ∧
    (∀ line ∈ before, Diagnostic.parse line = none) ∧
    List.Forall₂ Diagnostic.Block diagnostics blocks

/-- The same of diagnostics that are kept with the last one first. -/
def ReportsSoFar (found : List Diagnostic) (lines : List String) : Prop :=
  ∃ before blocks, lines = before ++ blocks.reverse.flatten ∧
    (∀ line ∈ before, Diagnostic.parse line = none) ∧
    List.Forall₂ Diagnostic.Block found blocks

theorem ReportsSoFar.reverse {found : List Diagnostic} {lines : List String}
    (h : ReportsSoFar found lines) : Reports found.reverse lines := by
  obtain ⟨before, blocks, rfl, hbefore, hblocks⟩ := h
  exact ⟨before, blocks.reverse, rfl, hbefore, List.forall₂_reverse_iff.mpr hblocks⟩

/-- One more line is a block of its own, a note, or another line before all blocks. -/
theorem ReportsSoFar.concat {found : List Diagnostic} {lines : List String}
    (h : ReportsSoFar found lines) (line : String) :
    ReportsSoFar (addText found line) (lines ++ [line]) := by
  obtain ⟨before, blocks, rfl, hbefore, hblocks⟩ := h
  rcases hparse : Diagnostic.parse line with _ | d
  · cases hblocks with
    | nil =>
        rw [addText_nil hparse]
        refine ⟨before ++ [line], [], by simp, ?_, .nil⟩
        intro other hother
        rcases List.mem_append.mp hother with hother | hother
        · exact hbefore other hother
        · rw [List.mem_singleton.mp hother]
          exact hparse
    | @cons last block found blocks hblock hblocks =>
        rw [addText_cons found hparse]
        exact ⟨before, (block ++ [line]) :: blocks, by simp, hbefore,
          .cons (hblock.concat hparse) hblocks⟩
  · rw [addText_of_parse found hparse]
    exact ⟨before, [line] :: blocks, by simp, hbefore,
      .cons (Diagnostic.block_of_parse hparse) hblocks⟩

theorem ReportsSoFar.foldl (rest : List String) :
    ∀ {found : List Diagnostic} {lines : List String}, ReportsSoFar found lines →
      ReportsSoFar (rest.foldl addText found) (lines ++ rest) := by
  induction rest with
  | nil =>
      intro found lines h
      rwa [List.append_nil]
  | cons line rest ih =>
      intro found lines h
      have hrest := ih (h.concat line)
      rwa [List.append_assoc] at hrest

/-! ### There is one way to cut the lines up -/

/-- Lines before all diagnostics are dropped. -/
theorem foldl_before {before : List String} (h : ∀ line ∈ before, Diagnostic.parse line = none) :
    before.foldl addText [] = [] := by
  induction before with
  | nil => rfl
  | cons line rest ih =>
      rw [List.foldl_cons, addText_nil (h line List.mem_cons_self)]
      exact ih fun other hother => h other (List.mem_cons_of_mem _ hother)

/-- Notes are added to the last diagnostic. -/
theorem foldl_notes {notes : List String} (h : ∀ note ∈ notes, Diagnostic.parse note = none)
    (found : List Diagnostic) :
    ∀ last : Diagnostic, notes.foldl addText (last :: found)
        = { last with notes := last.notes ++ notes } :: found := by
  induction notes with
  | nil => intro last; simp
  | cons note rest ih =>
      intro last
      rw [List.foldl_cons, addText_cons found (h note List.mem_cons_self),
        ih fun other hother => h other (List.mem_cons_of_mem _ hother)]
      simp

/-- A block adds its diagnostic. -/
theorem foldl_block {d : Diagnostic} {block : List String} (h : d.Block block)
    (found : List Diagnostic) : block.foldl addText found = d :: found := by
  obtain ⟨⟨first, rfl, hfirst⟩, hnotes⟩ := h
  rw [List.foldl_cons, addText_of_parse found hfirst, foldl_notes hnotes]
  rfl

theorem foldl_blocks {diagnostics : List Diagnostic} {blocks : List (List String)}
    (h : List.Forall₂ Diagnostic.Block diagnostics blocks) :
    ∀ found : List Diagnostic,
      blocks.flatten.foldl addText found = diagnostics.reverse ++ found := by
  induction h with
  | nil => intro found; rfl
  | cons hblock _ ih =>
      intro found
      rw [List.flatten_cons, List.foldl_append, foldl_block hblock, ih, List.reverse_cons,
        List.append_assoc]
      rfl

/-- Lines are read as the texts that they are. -/
theorem diagnosticsOf_eq (lines : List (List Char)) :
    diagnosticsOf lines = ((lines.map String.ofList).foldl addText []).reverse := by
  unfold diagnosticsOf addText
  simp only [List.foldl_map, String.toList_ofList]

/-- **The diagnostics in some lines are those whose blocks the lines are cut up into.** -/
theorem diagnosticsOf_eq_iff {lines : List (List Char)} {diagnostics : List Diagnostic} :
    diagnosticsOf lines = diagnostics ↔ Reports diagnostics (lines.map String.ofList) := by
  rw [diagnosticsOf_eq]
  constructor
  · rintro rfl
    have hnone : ReportsSoFar [] [] := ⟨[], [], rfl, nofun, .nil⟩
    exact (ReportsSoFar.foldl (lines.map String.ofList) hnone).reverse
  · rintro ⟨before, blocks, hlines, hbefore, hblocks⟩
    rw [hlines, List.foldl_append, foldl_before hbefore, foldl_blocks hblocks, List.append_nil,
      List.reverse_reverse]

/-! ### The output of a compiler -/

/-- The lines of the output. -/
def outputLines (e : CompilationError) : List String := (lines e.output.toList).map String.ofList

theorem diagnostics_ofOutput (sourceName output : String) :
    (ofOutput sourceName output).diagnostics
      = diagnosticsOf (lines (ofOutput sourceName output).output.toList) := by
  unfold ofOutput
  rw [String.toList_ofList]

/-- The diagnostics of an error are read off its output. -/
theorem diagnostics_eq_iff_reports {sourceName output : String} {others : List Diagnostic} :
    (ofOutput sourceName output).diagnostics = others ↔
      Reports others (ofOutput sourceName output).outputLines := by
  rw [diagnostics_ofOutput]
  exact diagnosticsOf_eq_iff

/-- Lines without a block are lines that begin no diagnostic. -/
theorem reports_nil_iff {lines : List String} :
    Reports [] lines ↔ ∀ line ∈ lines, Diagnostic.parse line = none := by
  constructor
  · rintro ⟨before, blocks, rfl, hbefore, hblocks⟩
    cases hblocks
    rw [List.flatten_nil, List.append_nil]
    exact hbefore
  · intro hnone
    exact ⟨lines, [], by rw [List.flatten_nil, List.append_nil], hnone, .nil⟩

/-- **No line of the output is lost**: it stands before all diagnostics, or it begins one, or it is
a note of the one before it.  The output is what the compiler wrote, without sentinels and without
white space at its end.  The diagnostics are the only ones of which that is true, and there are none
exactly if no line begins one. -/
theorem ofOutput_reports (sourceName output : String) :
    (ofOutput sourceName output).output.toList = cleanOutput output.toList ∧
      Reports (ofOutput sourceName output).diagnostics (ofOutput sourceName output).outputLines ∧
      (∀ others, Reports others (ofOutput sourceName output).outputLines →
        others = (ofOutput sourceName output).diagnostics) ∧
      ((ofOutput sourceName output).diagnostics = [] ↔
        ∀ line ∈ (ofOutput sourceName output).outputLines, Diagnostic.parse line = none) := by
  refine ⟨toList_output sourceName output, diagnostics_eq_iff_reports.mp rfl, ?_, ?_⟩
  · intro others h
    exact (diagnostics_eq_iff_reports.mpr h).symm
  · rw [diagnostics_eq_iff_reports]
    exact reports_nil_iff

/-- What a compiler says of two files: a line of its own, an error with the line of the source that
it is found in, and an error without a place. -/
def said : String :=
  "2 files\na.ts(4,9): error TS1: No x.\n  let y = x\n          ^\nerror TS2: No b.ts"

/-- The error that the compiler shows a line for. -/
def unknownName : Diagnostic :=
  ⟨some ⟨"a.ts", 4, 9⟩, .error, some "TS1", "No x.", ["  let y = x", "          ^"]⟩

/-- The error that has no place. -/
def missingFile : Diagnostic := ⟨none, .error, some "TS2", "No b.ts", []⟩

theorem cleanOutput_said : cleanOutput ("<#>" ++ said ++ "\n<#>").toList = said.toList := by
  have hparts : ("<#>" ++ said ++ "\n<#>").toList
      = sentinel ++ ((said.toList ++ ['\n']) ++ '<' :: ['#', '>']) := by
    simp [sentinel_eq]
  have hplain : ¬ sentinel <:+: said.toList ++ ['\n'] := by
    intro hoccurs
    have hfirst : '<' ∈ said.toList ++ ['\n'] := hoccurs.subset (by simp [sentinel_eq])
    have hnone : (said.toList ++ ['\n']).all (· ≠ '<') = true := by rfl
    exact absurd rfl (of_decide_eq_true (List.all_eq_true.mp hnone '<' hfirst))
  have hlast : removed ('<' :: ['#', '>']) = [] := (removed_sentinel []).trans removed_nil
  rw [cleanOutput_eq, hparts, removed_sentinel, removed_append, hlast, List.append_nil]
  unfold removed
  rw [replaceAll_eq_self hplain]
  rfl

/-- The line of the source, and the mark below it, are notes of the error that they are shown for. -/
theorem ofOutput_reports_notes :
    (ofOutput "a.ts" ("<#>" ++ said ++ "\n<#>")).output.toList = said.toList ∧
      (ofOutput "a.ts" ("<#>" ++ said ++ "\n<#>")).diagnostics = [unknownName, missingFile] := by
  obtain ⟨houtput, -, hunique, -⟩ := ofOutput_reports "a.ts" ("<#>" ++ said ++ "\n<#>")
  rw [cleanOutput_said] at houtput
  have hlines : (lines said.toList).map String.ofList = ["2 files", "a.ts(4,9): error TS1: No x.",
      "  let y = x", "          ^", "error TS2: No b.ts"] := by rfl
  have hname : unknownName.Block ["a.ts(4,9): error TS1: No x.", "  let y = x", "          ^"] := by
    refine ⟨⟨_, rfl, by rfl⟩, ?_⟩
    intro note hnote
    rcases List.mem_pair.mp hnote with rfl | rfl <;> rfl
  have hfile : missingFile.Block ["error TS2: No b.ts"] := ⟨⟨_, rfl, by rfl⟩, nofun⟩
  have hbefore : ∀ line ∈ ["2 files"], Diagnostic.parse line = none := by
    intro line hline
    rw [List.mem_singleton.mp hline]
    rfl
  refine ⟨houtput, (hunique _ ?_).symm⟩
  unfold outputLines
  rw [houtput, hlines]
  exact ⟨["2 files"], _, rfl, hbefore, .cons hname (.cons hfile .nil)⟩

end CompilationError

end ModuleLoader
