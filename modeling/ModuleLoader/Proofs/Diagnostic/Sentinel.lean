/-
Sentinels in the output of a compiler.

All sentinels that stand in the output are taken out of it at once.  They cannot overlap, since a
sentinel begins with a character that it holds nowhere else, so which ones are taken out does not
depend on where one begins to look.  What is taken out may bring together the characters of another
one: from `<<#>#>` the sentinel in the middle is removed, and a sentinel is left.

So the output is free of sentinels exactly if none was interrupted by others (`Interrupted`), and
only then an error that is built from its output again is the same error (`ofOutput_settled_iff`).
-/
import ModuleLoader.Diagnostic
import ModuleLoader.Proofs.Text.Occurrence

namespace ModuleLoader.CompilationError

open Text

/-- Some sentinels one after the other. -/
def sentinels (count : Nat) : List Char := (List.replicate count sentinel).flatten

/-- A sentinel between whose characters others stand. -/
def interrupted (first second : Nat) : List Char :=
  '<' :: (sentinels first ++ '#' :: (sentinels second ++ ['>']))

/-- Somewhere a sentinel is interrupted by others. -/
def Interrupted (text : List Char) : Prop :=
  ∃ first second, 0 < first + second ∧ interrupted first second <:+: text

/-- The text without the sentinels in it. -/
def removed (text : List Char) : List Char := replaceAll sentinel [] text

/-! ### Taking sentinels out -/

theorem sentinel_eq : sentinel = ['<', '#', '>'] := by rfl

theorem sentinel_ne_nil : sentinel ≠ [] := by
  rw [sentinel_eq]
  simp

theorem sentinels_succ (count : Nat) : sentinels (count + 1) = sentinel ++ sentinels count := by
  unfold sentinels
  rw [List.replicate_succ, List.flatten_cons]

theorem interrupted_zero : interrupted 0 0 = sentinel := by rfl

theorem removed_nil : removed [] = [] := by
  unfold removed
  rw [replaceAll]

theorem removed_sentinel (rest : List Char) : removed (sentinel ++ rest) = removed rest :=
  replaceAll_append sentinel_ne_nil [] rest

theorem removed_sentinels (count : Nat) (rest : List Char) :
    removed (sentinels count ++ rest) = removed rest := by
  induction count with
  | zero => rfl
  | succ count ih => rw [sentinels_succ, List.append_assoc, removed_sentinel, ih]

theorem removed_cons {c : Char} {rest : List Char} (h : ¬ sentinel <+: c :: rest) :
    removed (c :: rest) = c :: removed rest := replaceAll_cons h

/-- A sentinel begins with the first of its characters. -/
theorem removed_cons_of_ne {c : Char} (h : c ≠ '<') (rest : List Char) :
    removed (c :: rest) = c :: removed rest := by
  refine removed_cons ?_
  rw [sentinel_eq, List.cons_prefix_cons]
  exact fun hstart => h hstart.1.symm

/-- A text is read sentinel by sentinel, and character by character where none begins. -/
@[elab_as_elim]
theorem sentinel_induction {motive : List Char → Prop} (nil : motive [])
    (whole : ∀ rest, motive rest → motive (sentinel ++ rest))
    (single : ∀ c rest, ¬ sentinel <+: c :: rest → motive rest → motive (c :: rest))
    (text : List Char) : motive text := by
  generalize hlength : text.length = length
  induction length using Nat.strong_induction_on generalizing text with
  | _ length ih =>
      rcases text with _ | ⟨c, rest⟩
      · exact nil
      · by_cases hstart : sentinel <+: c :: rest
        · obtain ⟨behind, hbehind⟩ := hstart
          have hlt : behind.length < length := by
            rw [← hlength, ← hbehind, List.length_append, sentinel_eq]
            exact Nat.lt_add_of_pos_left (by decide)
          rw [← hbehind]
          exact whole behind (ih behind.length hlt behind rfl)
        · have hlt : rest.length < length := by
            rw [← hlength]
            simp
          exact single c rest hstart (ih rest.length hlt rest rfl)

/-- The first character that stays stands behind nothing but sentinels. -/
theorem exists_of_removed_eq_cons {text out : List Char} {c : Char}
    (h : removed text = c :: out) :
    ∃ count rest, text = sentinels count ++ c :: rest ∧ removed rest = out := by
  induction text using sentinel_induction with
  | nil =>
      rw [removed_nil] at h
      cases h
  | whole rest ih =>
      rw [removed_sentinel] at h
      obtain ⟨count, behind, rfl, hout⟩ := ih h
      refine ⟨count + 1, behind, ?_, hout⟩
      rw [sentinels_succ, List.append_assoc]
  | single d rest hstart ih =>
      rw [removed_cons hstart] at h
      obtain ⟨rfl, hout⟩ := List.cons.inj h
      exact ⟨0, rest, rfl, hout⟩

/-! ### Sentinels that are left -/

/-- Where the first character of a sentinel is followed by another sentinel none begins. -/
theorem not_prefix_interrupted {first second : Nat} (h : 0 < first + second) (rest : List Char) :
    ¬ sentinel <+: interrupted first second ++ rest := by
  intro hstart
  unfold interrupted at hstart
  rcases first with _ | first
  · rcases second with _ | second
    · omega
    · rw [sentinels_succ, sentinel_eq] at hstart
      simp [sentinels] at hstart
  · rw [sentinels_succ, sentinel_eq] at hstart
    simp at hstart

/-- What interrupts a sentinel is taken out, and the sentinel stays. -/
theorem removed_interrupted {first second : Nat} (h : 0 < first + second) (rest : List Char) :
    removed (interrupted first second ++ rest) = sentinel ++ removed rest := by
  have hstart := not_prefix_interrupted h rest
  unfold interrupted at hstart ⊢
  rw [List.cons_append] at hstart ⊢
  rw [removed_cons hstart, List.append_assoc, removed_sentinels, List.cons_append,
    removed_cons_of_ne (by decide), List.append_assoc, removed_sentinels, List.cons_append,
    removed_cons_of_ne (by decide)]
  rfl

/-- No sentinel reaches over a place where one could begin. -/
theorem prefix_of_prefix_append {text rest : List Char} (hne : text ≠ [])
    (h : sentinel <+: text ++ '<' :: rest) : sentinel <+: text := by
  rw [sentinel_eq] at h ⊢
  rcases text with _ | ⟨a, _ | ⟨b, _ | ⟨c, text⟩⟩⟩
  · exact absurd rfl hne
  · simp at h
  · simp at h
  · simpa using h

/-- What is taken out before a place where a sentinel could begin does not depend on what
follows. -/
theorem removed_append (text rest : List Char) :
    removed (text ++ '<' :: rest) = removed text ++ removed ('<' :: rest) := by
  induction text using sentinel_induction with
  | nil =>
      rw [removed_nil]
      rfl
  | whole behind ih => rw [List.append_assoc, removed_sentinel, removed_sentinel, ih]
  | single c behind hstart ih =>
      have hwhole : ¬ sentinel <+: c :: (behind ++ '<' :: rest) := by
        intro h
        exact hstart (prefix_of_prefix_append (by simp) h)
      rw [List.cons_append, removed_cons hwhole, removed_cons hstart, List.cons_append, ih]

/-- A sentinel that is left where none begins was interrupted there. -/
theorem exists_of_prefix_removed {c : Char} {rest : List Char} (hstart : ¬ sentinel <+: c :: rest)
    (h : sentinel <+: c :: removed rest) :
    ∃ first second after, 0 < first + second ∧ c :: rest = interrupted first second ++ after := by
  obtain ⟨out, hout⟩ := h
  rw [sentinel_eq] at hout
  obtain ⟨rfl, hrest⟩ := List.cons.inj hout
  obtain ⟨first, behind, rfl, hbehind⟩ := exists_of_removed_eq_cons hrest.symm
  obtain ⟨second, after, rfl, -⟩ := exists_of_removed_eq_cons hbehind
  have heq : '<' :: (sentinels first ++ '#' :: (sentinels second ++ '>' :: after))
      = interrupted first second ++ after := by simp [interrupted]
  refine ⟨first, second, after, ?_, heq⟩
  by_contra hzero
  obtain ⟨rfl, rfl⟩ : first = 0 ∧ second = 0 := by omega
  exact hstart ⟨after, by rw [heq, interrupted_zero]⟩

theorem Interrupted.mono {text whole : List Char} (h : Interrupted text) (hoccurs : text <:+: whole) :
    Interrupted whole := by
  obtain ⟨first, second, hpos, hin⟩ := h
  exact ⟨first, second, hpos, hin.trans hoccurs⟩

/-- **A sentinel is left exactly if one was interrupted.** -/
theorem sentinel_infix_removed_iff {text : List Char} :
    sentinel <:+: removed text ↔ Interrupted text := by
  constructor
  · intro h
    induction text using sentinel_induction with
    | nil =>
        rw [removed_nil] at h
        exact absurd (List.infix_nil.mp h) sentinel_ne_nil
    | whole rest ih =>
        rw [removed_sentinel] at h
        exact (ih h).mono (List.suffix_append _ _).isInfix
    | single c rest hstart ih =>
        rw [removed_cons hstart] at h
        rcases List.infix_cons_iff.mp h with hhere | hlater
        · obtain ⟨first, second, after, hpos, heq⟩ := exists_of_prefix_removed hstart hhere
          exact ⟨first, second, hpos, [], after, by rw [heq, List.nil_append]⟩
        · exact (ih hlater).mono (List.suffix_cons _ _).isInfix
  · rintro ⟨first, second, hpos, before, after, rfl⟩
    have hbefore : removed (before ++ interrupted first second ++ after)
        = removed before ++ removed (interrupted first second ++ after) := by
      rw [List.append_assoc]
      exact removed_append before _
    rw [hbefore, removed_interrupted hpos, ← List.append_assoc]
    exact List.infix_append _ _ _

/-! ### The output of an error -/

theorem cleanOutput_eq (text : List Char) : cleanOutput text = trimEnd (removed text) := rfl

theorem sentinel_infix_cleanOutput_iff {text : List Char} :
    sentinel <:+: cleanOutput text ↔ Interrupted text := by
  have hlast : isBlank '>' = false := by decide
  have hstem : sentinel = ['<', '#'] ++ ['>'] := by rfl
  rw [cleanOutput_eq, ← sentinel_infix_removed_iff, hstem]
  exact infix_trimEnd_iff hlast

/-- Cleaning once is enough if it leaves no sentinel, and otherwise the next time there is less. -/
theorem cleanOutput_cleanOutput_iff {text : List Char} :
    cleanOutput (cleanOutput text) = cleanOutput text ↔ ¬ sentinel <:+: cleanOutput text := by
  constructor
  · intro hsame hleft
    have hshort := length_replaceAll_nil_lt sentinel_ne_nil hleft
    have hle : (cleanOutput (cleanOutput text)).length ≤ (removed (cleanOutput text)).length :=
      length_trimEnd_le _
    rw [hsame] at hle
    unfold removed at hle
    omega
  · intro hfree
    rw [cleanOutput_eq (cleanOutput text)]
    unfold removed
    rw [replaceAll_eq_self hfree, cleanOutput_eq, trimEnd_trimEnd]

theorem toList_output (sourceName output : String) :
    (ofOutput sourceName output).output.toList = cleanOutput output.toList := by
  unfold ofOutput
  rw [String.toList_ofList]

/-- The diagnostics are read off the output, so two errors of one source are the same if their
outputs are. -/
theorem ofOutput_output_eq_iff {sourceName output : String} :
    ofOutput sourceName (ofOutput sourceName output).output = ofOutput sourceName output ↔
      cleanOutput (cleanOutput output.toList) = cleanOutput output.toList := by
  constructor
  · intro hsame
    have houtput := congrArg (fun e => e.output.toList) hsame
    simp only [toList_output] at houtput
    exact houtput
  · intro hclean
    unfold ofOutput
    rw [String.toList_ofList, hclean]

/-- **The output of an error ends in no white space, and it holds a sentinel exactly if one was
interrupted by others.**  An error that is built from the output again is the same error exactly if
none was. -/
theorem ofOutput_settled_iff (sourceName output : String) :
    (∀ front last, (ofOutput sourceName output).output.toList = front ++ [last] →
        isBlank last = false) ∧
      (sentinel <:+: (ofOutput sourceName output).output.toList ↔ Interrupted output.toList) ∧
      (ofOutput sourceName (ofOutput sourceName output).output = ofOutput sourceName output ↔
        ¬ Interrupted output.toList) := by
  rw [toList_output, ofOutput_output_eq_iff, cleanOutput_cleanOutput_iff,
    sentinel_infix_cleanOutput_iff]
  refine ⟨?_, Iff.rfl, Iff.rfl⟩
  intro front last h
  exact not_isBlank_of_trimEnd h

/-- From a sentinel inside another one only the inner one is taken out. -/
theorem sentinel_left_inside :
    (ofOutput "a.ts" "<<#>#>").output = "<#>" ∧
      ofOutput "a.ts" (ofOutput "a.ts" "<<#>#>").output ≠ ofOutput "a.ts" "<<#>#>" := by
  have htext : "<<#>#>".toList = interrupted 1 0 ++ [] := by rfl
  have hinside : Interrupted "<<#>#>".toList := ⟨1, 0, by decide, [], [], htext.symm⟩
  refine ⟨?_, ?_⟩
  · refine String.toList_injective ?_
    rw [toList_output, cleanOutput_eq, htext, removed_interrupted (by decide), removed_nil]
    rfl
  · rw [Ne, ofOutput_output_eq_iff, cleanOutput_cleanOutput_iff, sentinel_infix_cleanOutput_iff]
    exact not_not_intro hinside

end ModuleLoader.CompilationError
