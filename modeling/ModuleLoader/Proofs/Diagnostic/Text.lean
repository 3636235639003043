/-
Diagnostics read back from their text.

A diagnostic is written with its place first, if it has one, and then its category, its code and its
message.  That need not be the line it was read from: numbers are read with white space around them,
with a plus sign and with zeros in front, and they are written without.  The place is found again
all the same, because a file whose name was read from a line holds nothing that ends a place, and
where a line has no place a text with the same message has none (`parse_text_eq_parseBody`).

Of the rest, a code is found again because it holds no white space.  Without a code the colon comes
right behind the category.  A space is looked for there, so the colon is taken for a part of the word
and the word is no category.  So the text of a diagnostic is read as that diagnostic if it has a
code, and as none otherwise (`parse_text`).
-/
import ModuleLoader.Proofs.Diagnostic.Place

namespace ModuleLoader.Diagnostic

open Text

/-! ### Categories and codes -/

theorem all_isLower_text (category : Category) : category.text.toList.all Char.isLower = true := by
  cases category <;> rfl

theorem not_mem_text {c : Char} (h : c.isLower = false) (category : Category) :
    c ∉ category.text.toList := by
  intro hmem
  rw [List.all_eq_true.mp (all_isLower_text category) c hmem] at h
  cases h

theorem ofText?_eq_some_iff {word : List Char} {category : Category} :
    Category.ofText? word = some category ↔ category.text.toList = word := by
  constructor
  · intro h
    unfold Category.ofText? at h
    have hfound := List.find?_some h
    exact of_decide_eq_true hfound
  · rintro rfl
    cases category <;> rfl

/-- What stands before a message. -/
def separator : List Char := ": ".toList

theorem separator_eq : separator = [':'] ++ [' '] := by rfl

/-- A code is a word. -/
structure IsCode (code : List Char) : Prop where
  nonempty : code ≠ []
  solid : ∀ c ∈ code, isBlank c = false

theorem isCode_iff {code : List Char} :
    IsCode code ↔ (code.isEmpty || code.any isBlank) = false := by
  constructor
  · intro h
    simpa [h.nonempty] using h.solid
  · intro h
    rw [Bool.or_eq_false_iff] at h
    exact ⟨by simpa using h.1, by simpa using h.2⟩

/-- A code holds no space, so the message is not cut off any earlier. -/
theorem IsCode.cutAt? {code : List Char} (h : IsCode code) (message : List Char) :
    cutAt? separator (code ++ separator ++ message) = some (code, message) := by
  rw [separator_eq]
  refine cutAt?_concat_iff.mpr ⟨rfl, ?_⟩
  intro hoccurs
  have hspace : ' ' ∈ code ++ [':'] := hoccurs.subset (by simp)
  have hcode : ' ' ∈ code := by simpa using hspace
  exact absurd (h.solid ' ' hcode) (by decide)

theorem codeAndMessage_of_code {code : List Char} (h : IsCode code) (message : List Char) :
    codeAndMessage (code ++ separator ++ message) = (some code, message) := by
  unfold codeAndMessage
  rw [← separator, h.cutAt? message]
  exact if_neg (by simp [isCode_iff.mp h])

/-- A text begins with a code, or the whole of it is a message. -/
theorem codeAndMessage_cases (text : List Char) :
    (∃ code message, IsCode code ∧ text = code ++ separator ++ message ∧
        codeAndMessage text = (some code, message)) ∨
      ∃ start message, (start = [] ∨ start = separator) ∧ text = start ++ message ∧
        codeAndMessage text = (none, message) := by
  have hplain : ∃ start message, (start = [] ∨ start = separator) ∧ text = start ++ message ∧
      (none, (dropStart? separator text).getD text) = ((none : Option (List Char)), message) := by
    rcases hdrop : dropStart? separator text with _ | message
    · exact ⟨[], text, .inl rfl, rfl, rfl⟩
    · exact ⟨separator, message, .inr rfl, dropStart?_eq_some_iff.mp hdrop, rfl⟩
  rcases hcut : cutAt? separator text with _ | ⟨code, message⟩
  · refine .inr ?_
    unfold codeAndMessage
    rw [← separator, hcut]
    exact hplain
  · by_cases hcode : IsCode code
    · rw [separator_eq] at hcut
      obtain ⟨rfl, -⟩ := cutAt?_concat_iff.mp hcut
      rw [← separator_eq]
      exact .inl ⟨code, message, hcode, rfl, codeAndMessage_of_code hcode message⟩
    · refine .inr ?_
      unfold codeAndMessage
      rw [← separator, hcut]
      rw [isCode_iff, Bool.not_eq_false] at hcode
      simp only [hcode, if_pos]
      exact hplain

/-! ### Lines -/

/-- The diagnostic that is read behind a place, or where there is none. -/
def parseBody (location : Option Location) (rest : List Char) : Option Diagnostic := do
  let (word, rest) ← cut? ' ' rest
  let category ← Category.ofText? word
  let (code, message) := codeAndMessage rest
  return ⟨location, category, code.map String.ofList, String.ofList message, []⟩

theorem parseChars_of_location {line rest : List Char} {location : Location}
    (h : location? line = some (location, rest)) :
    parseChars line = parseBody (some location) rest := by
  unfold parseChars
  rw [h]
  rfl

theorem parseChars_of_none {line : List Char} (h : location? line = none) :
    parseChars line = parseBody none line := by
  unfold parseChars
  rw [h]
  rfl

/-- The diagnostic that is made of a category and what was read behind it. -/
def ofParts (location : Option Location) (category : Category)
    (parts : Option (List Char) × List Char) : Diagnostic :=
  ⟨location, category, parts.1.map String.ofList, String.ofList parts.2, []⟩

theorem parseBody_eq_some_iff {location : Option Location} {rest : List Char} {d : Diagnostic} :
    parseBody location rest = some d ↔ ∃ category text, rest = category.text.toList ++ ' ' :: text ∧
      d = ofParts location category (codeAndMessage text) := by
  unfold parseBody
  simp only [Option.bind_eq_bind, Option.bind_eq_some_iff, Option.pure_def, Prod.exists,
    Option.some.injEq]
  constructor
  · rintro ⟨word, text, hcut, category, hcategory, rfl⟩
    obtain ⟨rfl, -⟩ := cut?_eq_some_iff.mp hcut
    obtain rfl := ofText?_eq_some_iff.mp hcategory
    exact ⟨category, text, rfl, rfl⟩
  · rintro ⟨category, text, rfl, rfl⟩
    have hspace : ' ' ∉ category.text.toList := not_mem_text (by decide) category
    exact ⟨_, text, cut?_eq_some_iff.mpr ⟨rfl, hspace⟩, category, ofText?_eq_some_iff.mpr rfl, rfl⟩

/-- The word before the first space ends in a colon, and no category does. -/
theorem parseBody_eq_none {location : Option Location} {category : Category} {message : List Char} :
    parseBody location (category.text.toList ++ separator ++ message) = none := by
  rcases hbody : parseBody location (category.text.toList ++ separator ++ message) with _ | d
  · rfl
  · obtain ⟨other, text, heq, -⟩ := parseBody_eq_some_iff.mp hbody
    have hcolon : ':' ∉ other.text.toList := not_mem_text (by decide) other
    have hspace : ' ' ∉ category.text.toList ++ [':'] := by
      simp [not_mem_text]
    have hsplit : category.text.toList ++ [':'] ++ ' ' :: message
        = other.text.toList ++ ' ' :: text := by
      rw [← heq, separator_eq]
      simp
    obtain ⟨more, hmore, -⟩ := behind_of_separator hspace hsplit
    rw [hmore] at hcolon
    exact absurd (by simp) hcolon

/-- What stands behind the place of a diagnostic. -/
def bodyText (d : Diagnostic) : List Char :=
  d.category.text.toList ++ (d.code.elim [] fun code => ' ' :: code.toList) ++ separator ++
    d.message.toList

theorem toList_text (d : Diagnostic) : d.text.toList
    = (d.location.elim [] fun location => (locationText location).toList) ++ d.bodyText := by
  unfold text bodyText
  rcases d.location with _ | location <;> rcases d.code with _ | code <;>
    simp [separator_eq]

section

variable (location : Option Location) (category : Category) (code message : List Char)

theorem bodyText_coded : (ofParts location category (some code, message)).bodyText
    = category.text.toList ++ ' ' :: (code ++ separator ++ message) := by
  simp [bodyText, ofParts]

theorem bodyText_plain : (ofParts location category (none, message)).bodyText
    = category.text.toList ++ separator ++ message := by
  simp [bodyText, ofParts]

end

/-- What stands behind the place is read again if there is a code, and not at all otherwise. -/
theorem parseBody_bodyText {location : Option Location} {rest : List Char} {d : Diagnostic}
    (h : parseBody location rest = some d) :
    parseBody location d.bodyText = if d.code.isSome then some d else none := by
  obtain ⟨category, text, -, rfl⟩ := parseBody_eq_some_iff.mp h
  rcases codeAndMessage_cases text with ⟨code, message, hcode, -, hparts⟩ |
    ⟨-, message, -, -, hparts⟩
  · rw [hparts, bodyText_coded]
    refine parseBody_eq_some_iff.mpr ⟨category, code ++ separator ++ message, rfl, ?_⟩
    rw [codeAndMessage_of_code hcode]
  · rw [hparts, bodyText_plain]
    exact parseBody_eq_none

/-- Where a line has no place, what is written of its diagnostic has none. -/
theorem location?_bodyText {line : List Char} {d : Diagnostic} (hnone : location? line = none)
    (h : parseBody none line = some d) : location? d.bodyText = none := by
  obtain ⟨category, text, rfl, rfl⟩ := parseBody_eq_some_iff.mp h
  rcases codeAndMessage_cases text with ⟨code, message, -, rfl, hparts⟩ |
    ⟨start, message, hstart, rfl, hparts⟩
  · rw [hparts, bodyText_coded]
    exact hnone
  · have hline : category.text.toList ++ ' ' :: (start ++ message)
        = category.text.toList ++ ' ' :: start ++ message := by simp
    rw [hline] at hnone
    rw [hparts, bodyText_plain]
    refine location?_eq_none_of_front (by simp) ?_ ?_ hnone
    · simp [not_mem_text, separator_eq]
    · rcases hstart with rfl | rfl <;> simp [not_mem_text, separator_eq]

/-! ### The text of a diagnostic -/

theorem location_of_parseBody {location : Option Location} {rest : List Char} {d : Diagnostic}
    (h : parseBody location rest = some d) : d.location = location := by
  obtain ⟨category, text, -, rfl⟩ := parseBody_eq_some_iff.mp h
  rfl

/-- The place of a diagnostic is found again in its text, and there is none if it has none. -/
theorem parse_text_eq_parseBody {line : String} {d : Diagnostic} (h : parse line = some d) :
    (∃ rest, parseBody d.location rest = some d) ∧
      parse d.text = parseBody d.location d.bodyText := by
  unfold parse at h ⊢
  rw [toList_text]
  rcases hplace : location? line.toList with _ | ⟨location, rest⟩
  · rw [parseChars_of_none hplace] at h
    have hlocation : d.location = none := location_of_parseBody h
    rw [hlocation]
    exact ⟨⟨_, h⟩, parseChars_of_none (location?_bodyText hplace h)⟩
  · rw [parseChars_of_location hplace] at h
    have hlocation : d.location = some location := location_of_parseBody h
    rw [hlocation]
    exact ⟨⟨_, h⟩, parseChars_of_location (location?_locationText hplace _)⟩

/-- **The text of a diagnostic that was read is read as that diagnostic if it has a code, and as no
diagnostic otherwise.** -/
theorem parse_text {line : String} {d : Diagnostic} (h : parse line = some d) :
    parse d.text = if d.code.isSome then some d else none := by
  obtain ⟨⟨rest, hrest⟩, htext⟩ := parse_text_eq_parseBody h
  rw [htext]
  exact parseBody_bodyText hrest

/-- An error at a place, whose message holds what could end one. -/
def nameError : Diagnostic :=
  ⟨some ⟨"lib/(a).ts", 4, 23⟩, .error, some "TS2304", "Cannot find f(x): y", []⟩

/-- An error without a place and without a code. -/
def memoryError : Diagnostic := ⟨none, .error, none, "out of memory", []⟩

/-- A place is found again, however it was written, and a diagnostic without a code is lost, however
it was written. -/
theorem parse_text_found_or_lost :
    parse "lib/(a).ts( +4,023): error TS2304: Cannot find f(x): y" = some nameError ∧
      parse nameError.text = some nameError ∧
      parse "error : out of memory" = some memoryError ∧ parse memoryError.text = none := by
  have hname : parse "lib/(a).ts( +4,023): error TS2304: Cannot find f(x): y" = some nameError := by
    rfl
  have hmemory : parse "error : out of memory" = some memoryError := by rfl
  exact ⟨hname, parse_text hname, hmemory, parse_text hmemory⟩

/-- A diagnostic is read from a line, but none from the text of the diagnostic. -/
theorem memoryError_lost :
    parse "error out of memory" = some memoryError ∧
      memoryError.text = "error: out of memory" ∧ parse "error: out of memory" = none := by
  refine ⟨?_, ?_, ?_⟩ <;> rfl

end ModuleLoader.Diagnostic
