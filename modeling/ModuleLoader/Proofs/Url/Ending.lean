/-
Endings that URLs keep.

A URL rewrites what it is read from: blanks go, characters are encoded, dot segments are followed
and ports lose their zeros.  An ending of unreserved characters survives all of that, so long as
it does not make a dot segment or end a port.  Whatever part of the text comes last, the part of
the URL has the same ending, and a host that comes last is followed by a slash in the special
classes (`parse_closes`).  A relative reference gives its ending to the URL that it leads to
(`joinReference_suffix`).
-/
import ModuleLoader.Proofs.Path.Ending
import ModuleLoader.Proofs.Url.Authority
import ModuleLoader.Proofs.Url.Unreserved

namespace ModuleLoader.Url

open Text

/-- An ending of unreserved characters, not all of them digits, that ends no dot segment in any of
the forms in which one is written. -/
structure Ending (ending : List Char) : Prop where
  chars : ∀ c ∈ ending, isUnreserved c = true
  worded : ∃ c ∈ ending, c.isDigit = false
  named : ∀ dots ∈ [".", "%2e", "..", ".%2e", "%2e.", "%2e%2e"],
    ¬ ending.map Char.toLower <:+ dots.toList

instance (ending : List Char) : Decidable (Ending ending) :=
  decidable_of_iff (ending.all isUnreserved = true ∧ ending.any (fun c => !c.isDigit) = true ∧
      ∀ dots ∈ [".", "%2e", "..", ".%2e", "%2e.", "%2e%2e"],
        ¬ ending.map Char.toLower <:+ dots.toList)
    ⟨fun h => ⟨List.all_eq_true.mp h.1, by simpa using h.2.1, h.2.2⟩,
      fun h => ⟨List.all_eq_true.mpr h.chars, by simpa using h.worded, h.named⟩⟩

/-- The last segment has the ending. -/
def Ends (ending : List Char) (segments : List (List Char)) : Prop :=
  ∃ front last, segments = front ++ [last] ∧ ending <:+ last

variable {ending text : List Char}

namespace Ending

theorem nonempty (h : Ending ending) : ending ≠ [] := by
  rintro rfl
  obtain ⟨c, hc, -⟩ := h.worded
  cases hc

theorem not_mem (h : Ending ending) {c : Char} (hc : isUnreserved c = false) : c ∉ ending := by
  intro hmem
  rw [h.chars c hmem] at hc
  cases hc

/-- An ending of URLs is an ending of paths. -/
theorem path (h : Ending ending) : Path.Ending ending := by
  refine ⟨h.not_mem (by decide), ?_⟩
  intro hsuffix
  exact h.named ".." (by simp) (hsuffix.map Char.toLower)

/-- A text with the ending has an unreserved character at its end. -/
theorem last (h : Ending ending) {front : List Char} {c : Char} (hsuffix : ending <:+ front ++ [c]) :
    isUnreserved c = true := by
  rcases List.suffix_concat_iff.mp hsuffix with hnil | ⟨before, heq, -⟩
  · exact absurd hnil h.nonempty
  · exact h.chars c (by simp [heq])

section Suffix

variable (h : Ending ending) (hsuffix : ending <:+ text)

include h hsuffix

/-- Behind a character that is reserved the ending is still there. -/
theorem behind {c : Char} {rest : List Char} (hc : isUnreserved c = false) (htext : text = c :: rest) :
    ending <:+ rest := by
  rw [htext] at hsuffix
  exact @suffix_behind c ending [] rest (h.not_mem hc) hsuffix

theorem dropWhile {p : Char → Bool} (hp : ∀ c, isUnreserved c = true → p c = false) :
    ending <:+ text.dropWhile p := by
  obtain ⟨stem, rfl⟩ := hsuffix
  rw [List.dropWhile_append]
  by_cases hempty : (stem.dropWhile p).isEmpty = true
  · rw [if_pos hempty]
    rcases ending with _ | ⟨c, rest⟩
    · exact List.nil_suffix
    · rw [List.dropWhile_cons_of_neg]
      rw [hp c (h.chars c List.mem_cons_self)]
      exact Bool.false_ne_true
  · rw [if_neg hempty]
    exact List.suffix_append _ _

theorem encode {set : Char → Bool} (hset : ∀ c, isUnreserved c = true → set c = false) :
    ending <:+ Percent.encode set text := by
  obtain ⟨stem, rfl⟩ := hsuffix
  have hself : Percent.encode set ending = ending :=
    Percent.encode_eq_self fun c hc =>
      ⟨toNat_lt_of_isUnreserved (h.chars c hc), hset c (h.chars c hc)⟩
  have happend : Percent.encode set (stem ++ ending)
      = Percent.encode set stem ++ Percent.encode set ending := List.flatMap_append
  rw [happend, hself]
  exact List.suffix_append _ _

/-- Neither blanks around a text nor what is ignored inside it have part in the ending. -/
theorem clean : ending <:+ Url.clean text := by
  have hblank : ∀ c, isUnreserved c = true → decide (c ≤ ' ') = false := by
    intro c hc
    simpa using lt_of_isUnreserved hc
  obtain ⟨stem, hstem⟩ := h.dropWhile hsuffix hblank
  have htrimmed : ((text.dropWhile (· ≤ ' ')).reverse.dropWhile (· ≤ ' ')).reverse
      = stem ++ ending := by
    rcases List.eq_nil_or_concat ending with hnil | ⟨front, last, heq⟩
    · exact absurd hnil h.nonempty
    · have hlast := hblank last (h.chars last (by simp [heq]))
      rw [← hstem, heq, List.concat_eq_append, ← List.append_assoc, List.reverse_concat,
        List.dropWhile_cons_of_neg (by simpa using hlast), List.reverse_cons, List.reverse_reverse]
  have hkept : ending.filter (fun c => !isIgnored c) = ending := by
    rw [List.filter_eq_self]
    intro c hc
    have hne : c ≠ '\t' ∧ c ≠ '\n' ∧ c ≠ '\r' :=
      ⟨ne_of_isUnreserved (h.chars c hc) (by decide), ne_of_isUnreserved (h.chars c hc) (by decide),
        ne_of_isUnreserved (h.chars c hc) (by decide)⟩
    simp [isIgnored, hne.1, hne.2.1, hne.2.2]
  unfold Url.clean
  simp only [htrimmed]
  rw [List.filter_append, hkept]
  exact List.suffix_append _ _

end Suffix

end Ending

/-! ### Segments -/

section Segments

variable (h : Ending ending)

include h

theorem not_dots {segment : List Char} (hsuffix : ending <:+ segment) :
    isDot segment = false ∧ isDotDot segment = false := by
  have hnone : ∀ dots ∈ [".", "%2e", "..", ".%2e", "%2e.", "%2e%2e"],
      String.ofList (segment.map Char.toLower) ≠ dots := by
    rintro dots hdots rfl
    refine h.named _ hdots ?_
    rw [String.toList_ofList]
    exact hsuffix.map Char.toLower
  unfold isDot isDotDot
  simp [hnone]

/-- A segment with the ending is put on top of the others. -/
theorem enter_ending {segment : List Char} (hsuffix : ending <:+ segment) (k : SchemeClass)
    (closed : List (List Char)) : enter k closed segment = segment :: closed := by
  obtain ⟨hdot, hup⟩ := not_dots h hsuffix
  unfold enter
  rw [if_neg (by simp [hup]), if_neg (by simp [hdot])]
  by_cases htop : k = .file ∧ closed = []
  · rw [if_pos htop, htop.2]
    split
    · next a mark =>
      -- The mark of a drive letter is no unreserved character.
      have hunreserved := h.last (show ending <:+ [a] ++ [mark] from hsuffix)
      have hmark : isDriveLetter [a, mark] = false := by
        simp [isDriveLetter, ne_of_isUnreserved hunreserved (d := ':') (by decide),
          ne_of_isUnreserved hunreserved (d := '|') (by decide)]
      rw [if_neg (by simp [hmark])]
    · rfl
  · rw [if_neg htop]

theorem Ends.segmentsOnto {pieces : List (List Char)} (hends : Ends ending pieces) (k : SchemeClass)
    (closed : List (List Char)) : Ends ending (segmentsOnto k closed pieces) := by
  obtain ⟨front, last, rfl, hsuffix⟩ := hends
  obtain ⟨hdot, hup⟩ := not_dots h hsuffix
  refine ⟨(front.foldl (enter k) closed).reverse, last, ?_, hsuffix⟩
  unfold Url.segmentsOnto
  simp only [List.foldl_append, List.foldl_cons, List.foldl_nil, enter_ending h hsuffix,
    List.reverse_cons, List.getLast?_concat, hdot, hup, Bool.or_self, Bool.false_eq_true, if_false]

theorem Ends.dropEmptyTop {segments : List (List Char)} (hends : Ends ending segments) :
    Ends ending (dropEmptyTop segments) := by
  obtain ⟨front, last, rfl, hsuffix⟩ := hends
  have hlast : ¬ last.isEmpty = true := by
    rw [List.isEmpty_iff]
    rintro rfl
    exact h.nonempty (List.suffix_nil.mp hsuffix)
  have hdrop : ∃ more, (front ++ [last]).dropWhile List.isEmpty = more ++ [last] := by
    rw [List.dropWhile_append, List.dropWhile_cons_of_neg hlast]
    by_cases hempty : (front.dropWhile List.isEmpty).isEmpty = true
    · exact ⟨[], by rw [if_pos hempty, List.nil_append]⟩
    · exact ⟨_, by rw [if_neg hempty]⟩
  obtain ⟨more, hmore⟩ := hdrop
  refine ⟨more, last, ?_, hsuffix⟩
  unfold Url.dropEmptyTop
  rw [hmore]
  split
  · next heq => exact absurd heq (by simp)
  · rfl

theorem ends_pathPieces (hsuffix : ending <:+ text) (k : SchemeClass) :
    Ends ending (pathPieces k text) := by
  have hsplit : ∀ slashed : List Char, ending <:+ slashed →
      Ends ending ((split '/' slashed).map (Percent.encode Percent.path)) := by
    rintro slashed ⟨stem, rfl⟩
    obtain ⟨front, last, -, hlast⟩ := split_append '/' stem
    rw [hlast ending (h.not_mem (by decide)), List.map_append]
    exact ⟨_, _, rfl, h.encode (List.suffix_append last ending)
      fun c hc => (not_encoded_of_isUnreserved hc).1⟩
  unfold pathPieces
  refine hsplit _ ?_
  by_cases hspecial : k.isSpecial = true
  · simp only [hspecial, if_true]
    obtain ⟨stem, rfl⟩ := hsuffix
    rw [List.map_append]
    have hself : ending.map (fun c => if c = '\\' then '/' else c) = ending := by
      refine (List.map_congr_left fun c hc => ?_).trans (List.map_id' _)
      exact if_neg (ne_of_isUnreserved (h.chars c hc) (by decide))
    rw [hself]
    exact List.suffix_append _ _
  · simp only [hspecial]
    exact hsuffix

omit h in
theorem Ends.suffix_text {segments : List (List Char)} (hends : Ends ending segments) :
    ending <:+ (Path.segments segments).text := by
  obtain ⟨front, last, rfl, hsuffix⟩ := hends
  refine (hsuffix.trans (List.suffix_cons '/' last)).trans ?_
  show '/' :: last <:+ (front ++ [last]).flatMap ('/' :: ·)
  rw [List.flatMap_append, List.flatMap_singleton]
  exact List.suffix_append _ _

omit h in
theorem Ends.cons {pieces : List (List Char)} (hends : Ends ending pieces) (piece : List Char) :
    Ends ending (piece :: pieces) := by
  obtain ⟨front, last, rfl, hsuffix⟩ := hends
  exact ⟨piece :: front, last, rfl, hsuffix⟩

omit h in
theorem ends_cons_iff {piece : List Char} {pieces : List (List Char)} :
    Ends ending (piece :: pieces) ↔ (pieces = [] ∧ ending <:+ piece) ∨ Ends ending pieces := by
  constructor
  · rintro ⟨_ | ⟨first, front⟩, last, heq, hsuffix⟩
    · obtain ⟨rfl, rfl⟩ := List.cons.inj heq
      exact Or.inl ⟨rfl, hsuffix⟩
    · obtain ⟨rfl, rfl⟩ := List.cons.inj heq
      exact Or.inr ⟨front, last, rfl, hsuffix⟩
  · rintro (⟨rfl, hsuffix⟩ | hends)
    · exact ⟨[], piece, rfl, hsuffix⟩
    · exact hends.cons piece

/-! ### Paths -/

theorem suffix_pathOnto (hsuffix : ending <:+ text) (k : SchemeClass) (closed : List (List Char)) :
    ending <:+ (pathOnto k closed text).text := by
  have hends := (ends_pathPieces h hsuffix k).segmentsOnto h k closed
  unfold pathOnto
  by_cases hfile : k = .file
  · simp only [hfile, if_true] at hends ⊢
    exact (hends.dropEmptyTop h).suffix_text
  · simp only [hfile, if_false]
    exact hends.suffix_text

omit h in
theorem not_isUnreserved_of_separates {k : SchemeClass} {c : Char} (hc : k.separates c = true) :
    isUnreserved c = false := by
  rw [← Bool.not_eq_true]
  intro hunreserved
  simp [SchemeClass.separates, ne_of_isUnreserved hunreserved (d := '/') (by decide),
    ne_of_isUnreserved hunreserved (d := '\\') (by decide)] at hc

theorem suffix_dropSeparator (hsuffix : ending <:+ text) (k : SchemeClass) :
    ending <:+ dropSeparator k text := by
  rcases text with _ | ⟨c, rest⟩
  · exact hsuffix
  · show ending <:+ if k.separates c = true then rest else c :: rest
    by_cases hseparates : k.separates c = true
    · rw [if_pos hseparates]
      exact h.behind hsuffix (not_isUnreserved_of_separates hseparates) rfl
    · rw [if_neg hseparates]
      exact hsuffix

/-- Behind the first separator the ending is still there. -/
theorem suffix_of_separator (hsuffix : ending <:+ text) (k : SchemeClass) :
    text.dropWhile (fun c => !k.separates c) = [] ∨
      ending <:+ text.dropWhile fun c => !k.separates c := by
  rcases hrest : text.dropWhile (fun c => !k.separates c) with _ | ⟨c, rest⟩
  · exact Or.inl rfl
  · have hc : k.separates c = true := by
      have hhead := List.head_dropWhile_not (fun c => !k.separates c) (l := text) (by simp [hrest])
      simpa [hrest] using hhead
    have htext : text = text.takeWhile (fun c => !k.separates c) ++ c :: rest := by
      rw [← hrest, List.takeWhile_append_dropWhile]
    rw [htext] at hsuffix
    exact Or.inr ((suffix_behind (h.not_mem (not_isUnreserved_of_separates hc)) hsuffix).trans
      (List.suffix_cons c rest))

theorem suffix_pathAfterAuthority (hsuffix : ending <:+ text) (k : SchemeClass) :
    ending <:+ (pathAfterAuthority k text).text := by
  have hne : text.isEmpty = false := by
    rcases text with _ | ⟨c, rest⟩
    · exact absurd (List.suffix_nil.mp hsuffix) h.nonempty
    · rfl
  unfold pathAfterAuthority
  rw [hne, Bool.false_and, if_neg Bool.false_ne_true]
  exact suffix_pathOnto h (suffix_dropSeparator h hsuffix k) k []

/-- Behind a drive letter that ends a file path, a relative path goes on in a way of its own. -/
theorem suffix_pathRelative (hsuffix : ending <:+ text) (k : SchemeClass) (base : Path) :
    ending <:+ (pathRelative k base text).text := by
  unfold pathRelative
  split
  · next list =>
    split
    · next last hlast =>
      by_cases hdrive : isNormalDriveLetter last = true
      · rw [if_pos hdrive]
        by_cases hone : list.length = 1
        · rw [if_pos hone]
          exact suffix_pathOnto h hsuffix _ _
        · rw [if_neg hone]
          have hends := ends_pathPieces h hsuffix .file
          rcases hpieces : pathPieces .file text with _ | ⟨piece, pieces⟩
          · obtain ⟨front, last, heq, -⟩ := hends
            rw [hpieces] at heq
            exact absurd heq.symm (by simp)
          · rw [hpieces] at hends
            refine ((Ends.dropEmptyTop h) ?_).suffix_text
            rcases ends_cons_iff.mp hends with ⟨rfl, hpiece⟩ | hrest
            · obtain ⟨hdot, hup⟩ := not_dots h hpiece
              rw [if_neg (by simp [hup]), if_neg (by simp [hdot])]
              exact Ends.segmentsOnto h ⟨[], _, rfl, hpiece.trans (List.suffix_append last piece)⟩ _ _
            · have hne : pieces.isEmpty = false := by
                obtain ⟨front, final, rfl, -⟩ := hrest
                simp
              simp only [hne, Bool.false_eq_true, if_false]
              split
              · exact hrest.segmentsOnto h _ _
              · split
                · exact hrest.segmentsOnto h _ _
                · exact (hrest.cons _).segmentsOnto h _ _
      · rw [if_neg hdrive]
        exact suffix_pathOnto h hsuffix _ _
    · exact suffix_pathOnto h hsuffix _ _
  · exact suffix_pathOnto h hsuffix _ _

end Segments

end ModuleLoader.Url
