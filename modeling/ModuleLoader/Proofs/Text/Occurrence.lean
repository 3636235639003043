/-
Where one text occurs in another.

A cut is made at the first occurrence of what is looked for, and that is the one before whose end
there is no other (`cutAt?_eq_some_iff`).  Whatever a text is looked for in, an occurrence cannot
reach over a part that lacks its first or its last character, so most of what is known of
occurrences in a text carries over to a text that is put together anew.

Where nothing occurs nothing is replaced, and taking occurrences out makes a text shorter.
-/
import Mathlib.Data.List.DropRight
import Mathlib.Data.List.TakeDrop
import ModuleLoader.Proofs.Path.Segments
import ModuleLoader.Text.Blank

namespace ModuleLoader.Text

/-! ### Occurrences in two parts -/

/-- What begins with a character that the front lacks occurs in the back. -/
theorem infix_of_not_mem_front {first : Char} {rest front back : List Char}
    (h : first :: rest <:+: front ++ back) (hfront : first ∉ front) : first :: rest <:+: back := by
  induction front with
  | nil => exact h
  | cons c front ih =>
      rcases List.infix_cons_iff.mp h with hstart | h
      · obtain ⟨more, hmore⟩ := hstart
        obtain rfl := (List.cons.inj hmore).1
        exact absurd List.mem_cons_self hfront
      · exact ih h fun hmem => hfront (List.mem_cons_of_mem _ hmem)

/-- What ends in a character that the back lacks occurs in the front. -/
theorem infix_of_not_mem_back {last : Char} {stem front back : List Char}
    (h : stem ++ [last] <:+: front ++ back) (hback : last ∉ back) : stem ++ [last] <:+: front := by
  have hreverse : last :: stem.reverse <:+: back.reverse ++ front.reverse := by
    rw [← List.reverse_infix] at h
    simpa using h
  have hfront := infix_of_not_mem_front hreverse (by simpa using hback)
  rw [← List.reverse_infix]
  simpa using hfront

/-- A separator stands behind a beginning that lacks it. -/
theorem behind_of_separator {sep : Char} {start text front rest : List Char} (hflat : sep ∉ start)
    (h : start ++ text = front ++ sep :: rest) :
    ∃ more, front = start ++ more ∧ text = more ++ sep :: rest := by
  rcases List.append_eq_append_iff.mp h with ⟨more, rfl, htext⟩ | ⟨more, rfl, hmore⟩
  · exact ⟨more, rfl, htext⟩
  · rcases more with _ | ⟨c, more⟩
    · exact ⟨[], by simp, hmore.symm⟩
    · obtain rfl := (List.cons.inj hmore).1
      exact absurd (by simp) hflat

/-! ### The first occurrence -/

theorem dropStart?_eq_none_iff {start cs : List Char} :
    dropStart? start cs = none ↔ ¬ start <+: cs := by
  rw [← isSome_dropStart?_iff]
  simp

section

variable {find before after cs : List Char}

/-- A text that begins with what is looked for is cut at its beginning. -/
theorem eq_nil_of_first (hstart : find <+: before ++ find ++ after)
    (hfirst : ¬ find <:+: (before ++ find).dropLast) : before = [] := by
  by_contra hbefore
  have hlength : 0 < before.length := List.length_pos_iff.mpr hbefore
  have hle : find.length ≤ (before ++ find).dropLast.length := by
    rw [List.length_dropLast, List.length_append]
    omega
  have hwhole : (before ++ find).dropLast <+: before ++ find ++ after :=
    (List.dropLast_prefix _).trans (List.prefix_append _ _)
  exact hfirst (List.prefix_of_prefix_length_le hstart hwhole hle).isInfix

/-- A cut is made at the first occurrence: no other one ends before it does. -/
theorem cutAt?_eq_some_iff (hne : find ≠ []) : cutAt? find cs = some (before, after) ↔
    cs = before ++ find ++ after ∧ ¬ find <:+: (before ++ find).dropLast := by
  induction cs generalizing before with
  | nil =>
      unfold cutAt?
      simp [hne]
  | cons c r ih =>
      unfold cutAt?
      rcases hdrop : dropStart? find (c :: r) with _ | rest
      · -- No occurrence begins here, so it is left out of both texts.
        have hstart : ¬ find <+: c :: r := dropStart?_eq_none_iff.mp hdrop
        constructor
        · intro h
          obtain ⟨⟨front, back⟩, hcut, hpair⟩ := Option.map_eq_some_iff.mp h
          obtain ⟨rfl, rfl⟩ := Prod.mk.inj hpair
          obtain ⟨rfl, hfirst⟩ := ih.mp hcut
          refine ⟨rfl, ?_⟩
          rw [List.cons_append, List.dropLast_cons_of_ne_nil (by simp [hne]), List.infix_cons_iff]
          rintro (hhere | hlater)
          · refine hstart (hhere.trans ?_)
            rw [List.cons_prefix_cons]
            exact ⟨rfl, (List.dropLast_prefix _).trans (List.prefix_append _ _)⟩
          · exact hfirst hlater
        · rintro ⟨heq, hfirst⟩
          rcases before with _ | ⟨b, front⟩
          · exact absurd ⟨after, heq.symm⟩ hstart
          · obtain ⟨rfl, hr⟩ := List.cons.inj heq
            rw [List.cons_append, List.dropLast_cons_of_ne_nil (by simp [hne]),
              List.infix_cons_iff, not_or] at hfirst
            have hcut := ih.mpr ⟨hr, hfirst.2⟩
            rw [hcut]
            rfl
      · have hwhole : c :: r = find ++ rest := dropStart?_eq_some_iff.mp hdrop
        constructor
        · intro h
          obtain ⟨rfl, rfl⟩ := Prod.mk.inj (Option.some.inj h)
          refine ⟨hwhole, ?_⟩
          intro hoccurs
          have hle := hoccurs.length_le
          have hpos : 0 < find.length := List.length_pos_iff.mpr hne
          rw [List.nil_append, List.length_dropLast] at hle
          omega
        · rintro ⟨heq, hfirst⟩
          have hstart : find <+: before ++ find ++ after := ⟨rest, by rw [← hwhole, heq]⟩
          obtain rfl := eq_nil_of_first hstart hfirst
          rw [hwhole, List.nil_append] at heq
          rw [List.append_cancel_left heq]

theorem cutAt?_concat_iff {stem : List Char} {last : Char} :
    cutAt? (stem ++ [last]) cs = some (before, after) ↔
      cs = before ++ (stem ++ [last]) ++ after ∧ ¬ stem ++ [last] <:+: before ++ stem := by
  rw [cutAt?_eq_some_iff (by simp), ← List.append_assoc before, List.dropLast_concat]

end

/-! ### Replacing -/

section

variable {find new cs : List Char}

theorem replaceAll_append (hne : find ≠ []) (new rest : List Char) :
    replaceAll find new (find ++ rest) = new ++ replaceAll find new rest := by
  rcases hcs : find ++ rest with _ | ⟨c, r⟩
  · exact absurd (List.append_eq_nil_iff.mp hcs).1 hne
  · have hdrop : dropStart? find (c :: r) = some rest := dropStart?_eq_some_iff.mpr hcs.symm
    rw [replaceAll]
    split
    · next other hother =>
      obtain rfl : rest = other := Option.some.inj (hdrop.symm.trans hother)
      rw [dif_neg hne]
    · next hnone => exact absurd (hdrop.symm.trans hnone) (by simp)

theorem replaceAll_cons {c : Char} {r : List Char} (h : ¬ find <+: c :: r) :
    replaceAll find new (c :: r) = c :: replaceAll find new r := by
  have hdrop : dropStart? find (c :: r) = none := dropStart?_eq_none_iff.mpr h
  rw [replaceAll]
  split
  · next other hother => exact absurd (hdrop.symm.trans hother) (by simp)
  · rfl

/-- Where nothing occurs nothing is replaced. -/
theorem replaceAll_eq_self (h : ¬ find <:+: cs) : replaceAll find new cs = cs := by
  induction cs with
  | nil => rw [replaceAll]
  | cons c r ih =>
      rw [List.infix_cons_iff, not_or] at h
      rw [replaceAll_cons h.1, ih h.2]

/-- Taking occurrences out makes no text longer. -/
theorem length_replaceAll_nil_le (find cs : List Char) :
    (replaceAll find [] cs).length ≤ cs.length := by
  fun_induction replaceAll find [] cs with
  | case1 => exact Nat.le_refl _
  | case2 c r rest hdrop hempty ih =>
      simp only [List.length_cons]
      omega
  | case3 c r rest hdrop hne ih =>
      have hlength := length_of_dropStart? hdrop
      rw [List.nil_append]
      omega
  | case4 c r hdrop ih =>
      simp only [List.length_cons]
      omega

/-- Where something occurs, taking it out makes the text shorter. -/
theorem length_replaceAll_nil_lt (hne : find ≠ []) (h : find <:+: cs) :
    (replaceAll find [] cs).length < cs.length := by
  fun_induction replaceAll find [] cs with
  | case1 => exact absurd (List.infix_nil.mp h) hne
  | case2 c r rest hdrop hempty ih => exact absurd hempty hne
  | case3 c r rest hdrop _ ih =>
      have hlength := length_of_dropStart? hdrop
      have hpos : 0 < find.length := List.length_pos_iff.mpr hne
      have hle := length_replaceAll_nil_le find rest
      rw [List.nil_append]
      omega
  | case4 c r hdrop ih =>
      rcases List.infix_cons_iff.mp h with hstart | h
      · exact absurd hstart (dropStart?_eq_none_iff.mp hdrop)
      · have hlt := ih h
        simp only [List.length_cons]
        omega

end

/-! ### White space around a text -/

theorem trimEnd_eq_rdropWhile (cs : List Char) : trimEnd cs = cs.rdropWhile isBlank := rfl

theorem trimEnd_trimEnd (cs : List Char) : trimEnd (trimEnd cs) = trimEnd cs := by
  rw [trimEnd_eq_rdropWhile, trimEnd_eq_rdropWhile]
  exact List.rdropWhile_idempotent isBlank cs

theorem length_trimEnd_le (cs : List Char) : (trimEnd cs).length ≤ cs.length :=
  (List.rdropWhile_prefix isBlank cs).length_le

theorem not_isBlank_of_trimEnd {cs front : List Char} {last : Char}
    (h : trimEnd cs = front ++ [last]) : isBlank last = false := by
  rw [trimEnd_eq_rdropWhile] at h
  have hne : cs.rdropWhile isBlank ≠ [] := by
    rw [h]
    simp
  have hlast := List.rdropWhile_last_not isBlank cs hne
  simpa [h] using hlast

/-- Nothing that ends otherwise than in white space is cut off. -/
theorem infix_trimEnd_iff {cs stem : List Char} {last : Char} (hlast : isBlank last = false) :
    stem ++ [last] <:+: trimEnd cs ↔ stem ++ [last] <:+: cs := by
  have hcut : trimEnd cs ++ cs.rtakeWhile isBlank = cs := List.rdropWhile_append_rtakeWhile
  constructor
  · intro h
    rw [← hcut]
    exact h.trans (List.prefix_append _ _).isInfix
  · intro h
    rw [← hcut] at h
    refine infix_of_not_mem_back h ?_
    intro hmem
    rw [List.mem_rtakeWhile_imp hmem] at hlast
    cases hlast

/-- Nothing is cut off a text without white space. -/
theorem trim_eq_self {cs : List Char} (h : ∀ c ∈ cs, isBlank c = false) : trim cs = cs := by
  have hstart : trimStart cs = cs := by
    unfold trimStart
    rw [List.dropWhile_eq_self_iff]
    intro hlength
    simp [h]
  unfold trim
  rw [hstart, trimEnd_eq_rdropWhile, List.rdropWhile_eq_self_iff]
  intro hne
  simp [h]

end ModuleLoader.Text
