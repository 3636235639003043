/-
Places at the beginning of a line.

A place ends at the first closing bracket with a colon and a space behind it.  The last opening
bracket before that one stands between the file and the two numbers, and there is a place exactly if
a line can be taken apart like that (`location?_eq_some_iff`).

Two changes leave a place where it is.  Its numbers may be written as digits alone, because digits
are neither brackets nor a comma and hold nothing that ends a place (`Placed.digits`).  And its file
may begin otherwise, if not with a bracket (`Placed.withFront`).
-/
import Mathlib.Data.List.TakeDrop
import ModuleLoader.Diagnostic
import ModuleLoader.Proofs.Text.Occurrence

namespace ModuleLoader.Diagnostic

open Text

/-! ### Numbers -/

/-- The digits of a number. -/
def digits (n : Nat) : List Char := Nat.toDigits 10 n

theorem isDigit_of_mem_digits {n : Nat} {c : Char} (h : c ∈ digits n) : c.isDigit = true :=
  Nat.isDigit_of_mem_toDigits (by decide) (by decide) h

theorem not_isBlank_of_isDigit {c : Char} (h : c.isDigit = true) : isBlank c = false := by
  obtain ⟨hlow, hhigh⟩ := Char.isDigit_iff_toNat.mp h
  simp only [Char.reduceToNat] at hlow hhigh
  simp [isBlank, blankRanges]
  omega

/-- The number behind a plus sign, or the whole text if there is none. -/
def unsigned : List Char → List Char
  | '+' :: rest => rest
  | rest => rest

theorem unsigned_digits (n : Nat) : unsigned (digits n) = digits n := by
  unfold unsigned
  split
  · next rest heq =>
    have hplus : '+' ∈ digits n := by
      rw [heq]
      exact List.mem_cons_self
    exact absurd (isDigit_of_mem_digits hplus) (by decide)
  · rfl

theorem number?_eq (cs : List Char) : number? cs =
    if (unsigned (trim cs)).isEmpty || !(unsigned (trim cs)).all Char.isDigit then none
    else if Nat.ofDigitChars 10 (unsigned (trim cs)) 0 < Nat.pow 2 32 then
      some (Nat.ofDigitChars 10 (unsigned (trim cs)) 0)
    else none := by
  unfold number?
  rw [Nat.ofDigitChars_eq_foldl]
  simp only [Nat.mul_comm 10]
  rfl

/-- A number is read back from its digits. -/
theorem number?_digits {n : Nat} (h : n < Nat.pow 2 32) : number? (digits n) = some n := by
  have htrim : trim (digits n) = digits n :=
    trim_eq_self fun c hc => not_isBlank_of_isDigit (isDigit_of_mem_digits hc)
  have hvalue : Nat.ofDigitChars 10 (digits n) 0 = n := Nat.ofDigitChars_ten_toDigits
  have hdigits : ∀ c ∈ digits n, c.isDigit = true := fun c hc => isDigit_of_mem_digits hc
  have hne : digits n ≠ [] := Nat.toDigits_ne_nil
  rw [number?_eq, htrim, unsigned_digits, hvalue, if_neg (by simpa [hne] using hdigits), if_pos h]

theorem lt_of_number? {cs : List Char} {n : Nat} (h : number? cs = some n) : n < Nat.pow 2 32 := by
  rw [number?_eq] at h
  by_cases hdigits : ((unsigned (trim cs)).isEmpty || !(unsigned (trim cs)).all Char.isDigit) = true
  · rw [if_pos hdigits] at h
    cases h
  · by_cases hsmall : Nat.ofDigitChars 10 (unsigned (trim cs)) 0 < Nat.pow 2 32
    · rw [if_neg hdigits, if_pos hsmall] at h
      rwa [Option.some.inj h] at hsmall
    · rw [if_neg hdigits, if_neg hsmall] at h
      cases h

/-! ### Places -/

/-- What ends a place. -/
def closing : List Char := "): ".toList

theorem closing_eq : closing = [')', ':'] ++ [' '] := by rfl

/-- A file and the texts of two numbers, as a place is written. -/
def placeText (file line column : List Char) : List Char :=
  file ++ '(' :: (line ++ ',' :: column)

/-- Two texts are the numbers of a place, and where they are written behind its file they are found:
no bracket and no comma stands in the way, and nothing could be taken for the end of the place
before it ends. -/
structure Placed (location : Location) (line column : List Char) : Prop where
  file : location.file.toList ≠ []
  readsLine : number? line = some location.line
  readsColumn : number? column = some location.column
  comma : ',' ∉ line
  bracket : '(' ∉ line ++ ',' :: column
  first : ¬ closing <:+: placeText location.file.toList line column ++ [')', ':']

theorem cutAt?_closing_iff {text before after : List Char} :
    cutAt? closing text = some (before, after) ↔
      text = before ++ closing ++ after ∧ ¬ closing <:+: before ++ [')', ':'] := by
  rw [closing_eq]
  exact cutAt?_concat_iff

theorem location?_eq_some_iff {text rest : List Char} {location : Location} :
    location? text = some (location, rest) ↔ ∃ line column, Placed location line column ∧
      text = placeText location.file.toList line column ++ closing ++ rest := by
  unfold location?
  rw [← closing]
  simp only [Option.bind_eq_bind, Option.bind_eq_some_iff, Option.pure_def, Prod.exists]
  constructor
  · rintro ⟨head, behind, hcut, file, place, hlast, line, column, hcomma, row, hrow, number, hnumber,
      hresult⟩
    by_cases hfile : file.isEmpty = true
    · rw [if_pos hfile] at hresult
      cases hresult
    · rw [if_neg hfile] at hresult
      obtain ⟨rfl, rfl⟩ := Prod.mk.inj (Option.some.inj hresult)
      obtain ⟨rfl, hfirst⟩ := cutAt?_closing_iff.mp hcut
      obtain ⟨rfl, hbracket⟩ := cutLast?_eq_some_iff.mp hlast
      obtain ⟨rfl, hno⟩ := cut?_eq_some_iff.mp hcomma
      refine ⟨line, column, ⟨?_, hrow, hnumber, hno, hbracket, ?_⟩, ?_⟩
      · simpa using hfile
      · rwa [String.toList_ofList]
      · rw [String.toList_ofList]
        rfl
  · rintro ⟨line, column, hplaced, rfl⟩
    refine ⟨_, rest, cutAt?_closing_iff.mpr ⟨rfl, hplaced.first⟩, location.file.toList, _,
      cutLast?_eq_some_iff.mpr ⟨rfl, hplaced.bracket⟩, line, column,
      cut?_eq_some_iff.mpr ⟨rfl, hplaced.comma⟩, location.line, hplaced.readsLine,
      location.column, hplaced.readsColumn, ?_⟩
    have hfile : ¬ location.file.toList.isEmpty = true := by simpa using hplaced.file
    rw [if_neg hfile, String.ofList_toList]

theorem not_mem_digits {c : Char} (h : c.isDigit = false) (n : Nat) : c ∉ digits n := by
  intro hmem
  rw [isDigit_of_mem_digits hmem] at h
  cases h

/-- The numbers of a place may be written as their digits. -/
theorem Placed.digits {location : Location} {line column : List Char}
    (h : Placed location line column) :
    Placed location (digits location.line) (digits location.column) := by
  refine ⟨h.file, number?_digits (lt_of_number? h.readsLine),
    number?_digits (lt_of_number? h.readsColumn), not_mem_digits (by decide) _, ?_, ?_⟩
  · intro hmem
    rcases List.mem_append.mp hmem with hmem | hmem
    · exact not_mem_digits (by decide) _ hmem
    · rcases List.mem_cons.mp hmem with heq | hmem
      · exact absurd heq (by decide)
      · exact not_mem_digits (by decide) _ hmem
  · -- What ends a place ends in a space, and behind the file there is none.
    intro hoccurs
    have hspace : ' ' ∉ '(' :: (Diagnostic.digits location.line ++
        ',' :: Diagnostic.digits location.column) ++ [')', ':'] := by
      simp [not_mem_digits]
    unfold placeText at hoccurs
    rw [List.append_assoc, closing_eq] at hoccurs
    have hfile := infix_of_not_mem_back hoccurs hspace
    rw [← closing_eq] at hfile
    refine h.first (hfile.trans ?_)
    unfold placeText
    rw [List.append_assoc]
    exact (List.prefix_append _ _).isInfix

theorem toList_locationText (location : Location) : (locationText location).toList
    = placeText location.file.toList (digits location.line) (digits location.column) ++ closing := by
  have htext : locationText location = location.file ++ "(" ++ location.line.repr ++ "," ++
      location.column.repr ++ "): " := rfl
  rw [htext]
  simp [placeText, digits, closing_eq, Nat.toList_repr]

/-- A place that was read is found again where it is written. -/
theorem location?_locationText {text rest : List Char} {location : Location}
    (h : location? text = some (location, rest)) (behind : List Char) :
    location? ((locationText location).toList ++ behind) = some (location, behind) := by
  obtain ⟨line, column, hplaced, -⟩ := location?_eq_some_iff.mp h
  refine location?_eq_some_iff.mpr ⟨_, _, hplaced.digits, ?_⟩
  rw [toList_locationText]

/-- A file may begin otherwise, if not with a bracket that could end the place. -/
theorem Placed.withFront {location : Location} {line column front other file : List Char}
    (h : Placed location line column) (hfile : location.file.toList = other ++ file)
    (hne : front ≠ []) (hclose : ')' ∉ front) :
    Placed ⟨String.ofList (front ++ file), location.line, location.column⟩ line column := by
  refine ⟨?_, h.readsLine, h.readsColumn, h.comma, h.bracket, ?_⟩
  · rw [String.toList_ofList]
    simp [hne]
  · rw [String.toList_ofList]
    unfold placeText
    intro hoccurs
    rw [List.append_assoc, List.append_assoc] at hoccurs
    refine h.first ((infix_of_not_mem_front hoccurs hclose).trans ?_)
    unfold placeText
    rw [hfile, List.append_assoc, List.append_assoc]
    exact (List.suffix_append _ _).isInfix

/-- Whether a text has a place does not depend on what stands before its brackets. -/
theorem location?_eq_none_of_front {front other text : List Char} (hne : front ≠ [])
    (hopen : '(' ∉ other) (hclose : ')' ∉ front) (h : location? (front ++ text) = none) :
    location? (other ++ text) = none := by
  rcases hlocation : location? (other ++ text) with _ | ⟨location, rest⟩
  · rfl
  · exfalso
    obtain ⟨line, column, hplaced, heq⟩ := location?_eq_some_iff.mp hlocation
    have hopened : other ++ text
        = location.file.toList ++ '(' :: (line ++ ',' :: column ++ closing ++ rest) := by
      rw [heq]
      simp [placeText]
    obtain ⟨file, hfile, rfl⟩ := behind_of_separator hopen hopened
    have hwhole : front ++ (file ++ '(' :: (line ++ ',' :: column ++ closing ++ rest))
        = placeText (String.ofList (front ++ file)).toList line column ++ closing ++ rest := by
      simp [placeText]
    have hsome := location?_eq_some_iff.mpr
      ⟨line, column, hplaced.withFront hfile hne hclose, hwhole⟩
    rw [h] at hsome
    cases hsome

end ModuleLoader.Diagnostic
