/-
The scheme of a URL.

A scheme is a letter and what may follow it, and never holds a colon.  Reading a URL takes its
scheme from the text, in lower case, or from the base, or it is that of a file.  So a URL that
was read is written with a scheme before the first colon (`isAbsolute_text`): what is known by
a URL is never taken for a logical path, and a reference leads from a URL to another one.
-/
import Mathlib
import ModuleLoader.Proofs.Reference

namespace ModuleLoader

open Text

namespace Url

/-- A letter, and characters that may stand in a scheme. -/
def IsScheme : List Char → Prop
  | [] => False
  | c :: name => c.isAlpha = true ∧ name.all isSchemeChar = true

theorem isSchemeChar_toLower {c : Char} (h : isSchemeChar c = true) :
    isSchemeChar c.toLower = true := by
  by_cases halpha : c.isAlpha = true
  · have hlower : c.toLower.isAlpha = true := (Char.isAlpha_toLower_eq_isAlpha c).trans halpha
    simp [isSchemeChar, Char.isAlphanum, hlower]
  · have hupper : ¬ c.isUpper = true := by
      intro hupper
      refine halpha ?_
      show (c.isUpper || c.isLower) = true
      rw [hupper, Bool.true_or]
    rwa [Char.toLower_eq_of_not_isUpper hupper]

theorem isScheme_of_scheme? {main scheme rest : List Char}
    (h : scheme? main = some (scheme, rest)) : IsScheme scheme := by
  unfold scheme? at h
  rcases hcut : cut? ':' main with _ | ⟨_ | ⟨c, name⟩, after⟩
  · rw [hcut] at h
    cases h
  · rw [hcut] at h
    cases h
  · simp only [hcut] at h
    by_cases hscheme : (c.isAlpha && name.all isSchemeChar) = true
    · rw [if_pos hscheme] at h
      obtain ⟨rfl, -⟩ := Prod.mk.inj (Option.some.inj h)
      rw [Bool.and_eq_true] at hscheme
      refine ⟨(Char.isAlpha_toLower_eq_isAlpha c).trans hscheme.1, ?_⟩
      rw [List.all_eq_true] at hscheme ⊢
      intro d hd
      obtain ⟨e, he, rfl⟩ := List.mem_map.mp hd
      exact isSchemeChar_toLower (hscheme.2 e he)
    · rw [if_neg hscheme] at h
      cases h

theorem isScheme_file : IsScheme "file".toList := ⟨by decide, by decide⟩

/-! ### Every way of reading a URL gives it a scheme -/

theorem afterSlashes_scheme {scheme text : List Char} {parts : Parts} {url : Url}
    (h : afterSlashes scheme parts text = .ok url) : url.scheme = scheme := by
  simp only [afterSlashes, bind, Except.bind, pure, Except.pure, throw, throwThe,
    MonadExceptOf.throw] at h
  repeat' split at h
  all_goals cases h
  all_goals rfl

theorem fileWithHost_scheme {text : List Char} {parts : Parts} {url : Url}
    (h : fileWithHost parts text = .ok url) : url.scheme = "file".toList := by
  simp only [fileWithHost, bind, Except.bind, pure, Except.pure] at h
  repeat' split at h
  all_goals cases h
  all_goals rfl

theorem fromRoot_scheme (base : Option Url) (parts : Parts) (text : List Char) :
    (parseFile.fromRoot base parts text).scheme = "file".toList := by
  unfold parseFile.fromRoot
  repeat' split
  all_goals rfl

theorem parseFile_scheme {base : Option Url} {parts : Parts} {url : Url}
    (hbase : ∀ other ∈ base, IsScheme other.scheme) (h : parseFile base parts = .ok url) :
    IsScheme url.scheme := by
  have hfile : url.scheme = "file".toList → IsScheme url.scheme := fun heq => heq ▸ isScheme_file
  unfold parseFile at h
  rcases hmain : parts.main with _ | ⟨first, rest⟩
  · rcases base with _ | base
    · simp only [hmain] at h
      cases h
      exact isScheme_file
    · simp only [hmain] at h
      cases h
      exact hbase base rfl
  · simp only [hmain] at h
    by_cases hslash : SchemeClass.file.separates first = true
    · rw [if_pos hslash] at h
      rcases rest with _ | ⟨second, rest⟩
      · obtain rfl := Except.ok.inj h
        exact hfile (fromRoot_scheme base parts [])
      · by_cases hsecond : SchemeClass.file.separates second = true
        · simp only [hsecond, if_pos] at h
          exact hfile (fileWithHost_scheme h)
        · simp only [hsecond, if_neg, Bool.false_eq_true, not_false_eq_true] at h
          obtain rfl := Except.ok.inj h
          exact hfile (fromRoot_scheme base parts (second :: rest))
    · rw [if_neg hslash] at h
      rcases base with _ | base
      · obtain rfl := Except.ok.inj h
        exact isScheme_file
      · simp only at h
        split at h
        · obtain rfl := Except.ok.inj h
          exact isScheme_file
        · obtain rfl := Except.ok.inj h
          exact hbase base rfl

theorem parseRelative_scheme {base : Url} {parts : Parts} {url : Url}
    (h : parseRelative base parts = .ok url) : url.scheme = base.scheme := by
  unfold parseRelative at h
  simp only at h
  repeat' split at h
  all_goals first
    | exact afterSlashes_scheme h
    | obtain rfl := Except.ok.inj h; rfl

theorem parseGeneric_scheme {scheme main : List Char} {parts : Parts} {url : Url}
    (h : parseGeneric scheme parts main = .ok url) : url.scheme = scheme := by
  unfold parseGeneric at h
  split at h
  · exact afterSlashes_scheme h
  · cases h
    rfl
  · cases h
    rfl

theorem parseAbsolute_scheme {base : Option Url} {scheme main : List Char} {parts : Parts}
    {url : Url} (hbase : ∀ other ∈ base, IsScheme other.scheme) (hscheme : IsScheme scheme)
    (h : parseAbsolute base scheme parts main = .ok url) : IsScheme url.scheme := by
  unfold parseAbsolute at h
  split at h
  · refine parseFile_scheme ?_ h
    intro other hother
    exact hbase other (Option.mem_filter_iff.mp hother).1
  · simp only at h
    repeat' split at h
    · next hsame => rw [parseRelative_scheme h, hsame.2]; exact hscheme
    · rw [afterSlashes_scheme h]
      exact hscheme
    · rw [afterSlashes_scheme h]
      exact hscheme
  · rw [parseGeneric_scheme h]
    exact hscheme

/-- **A URL that is read has a scheme**, if the base has. -/
theorem parseChars_scheme {base : Option Url} {input : List Char} {url : Url}
    (hbase : ∀ other ∈ base, IsScheme other.scheme) (h : parseChars base input = .ok url) :
    IsScheme url.scheme := by
  unfold parseChars at h
  simp only at h
  rcases hscheme : scheme? (Parts.of (clean input)).main with _ | ⟨scheme, main⟩
  · rw [hscheme] at h
    rcases base with _ | base
    · cases h
    · simp only at h
      repeat' split at h
      · obtain rfl := Except.ok.inj h
        exact hbase base rfl
      · cases h
      · exact parseFile_scheme hbase h
      · rw [parseRelative_scheme h]
        exact hbase base rfl
  · rw [hscheme] at h
    exact parseAbsolute_scheme hbase (isScheme_of_scheme? hscheme) h

theorem parse_scheme {input : String} {url : Url} (h : parse input = .ok url) :
    IsScheme url.scheme :=
  parseChars_scheme (by simp) h

theorem joinReference_scheme {base url : Url} {reference : String} (hbase : IsScheme base.scheme)
    (h : base.joinReference reference = .ok url) : IsScheme url.scheme :=
  parseChars_scheme (by simpa using hbase) h

/-! ### A URL is written with its scheme -/

theorem colon_not_mem_of_isScheme {scheme : List Char} (h : IsScheme scheme) : ':' ∉ scheme := by
  rcases scheme with _ | ⟨c, name⟩
  · simp
  · intro hmem
    rcases List.mem_cons.mp hmem with rfl | hmem
    · exact absurd h.1 (by decide)
    · exact absurd (List.all_eq_true.mp h.2 _ hmem) (by decide)

/-- **The text of a URL is taken for a URL.** -/
theorem isAbsolute_text {url : Url} (h : IsScheme url.scheme) :
    Reference.isAbsolute url.text = true := by
  obtain ⟨rest, hrest⟩ : ∃ rest, url.chars = url.scheme ++ ':' :: rest :=
    ⟨_, by unfold chars; simp only [List.append_assoc, List.cons_append]; rfl⟩
  have hcut : cut? ':' url.chars = some (url.scheme, rest) :=
    cut?_eq_some_iff.mpr ⟨hrest, colon_not_mem_of_isScheme h⟩
  unfold Reference.isAbsolute Reference.isAbsoluteChars text
  rw [String.toList_ofList, hcut]
  rcases hscheme : url.scheme with _ | ⟨c, name⟩
  · rw [hscheme] at h
    exact h.elim
  · rw [hscheme] at h
    simp [h.1, h.2]

end Url

namespace Reference

/-- A reference leads from a URL to a URL, unless the URL has nothing to resolve references
against, which then mean what their texts say. -/
theorem resolve_of_url {base reference target : String} (hbase : isAbsolute base = true)
    (h : resolve base reference = .ok target) :
    isAbsolute target = true ∨ ∀ other, resolve base other = .ok other := by
  unfold resolve at h
  by_cases hreference : isAbsolute reference = true
  · rw [if_pos hreference] at h
    obtain rfl := Except.ok.inj h
    exact Or.inl hreference
  · rw [if_neg hreference, if_pos hbase] at h
    rcases hurl : Url.parse base with fault | url
    · rw [hurl] at h
      cases h
    · simp only [hurl] at h
      by_cases hroot : url.isRootless = true
      · refine Or.inr fun other => ?_
        unfold resolve
        by_cases hother : isAbsolute other = true
        · rw [if_pos hother]
        · rw [if_neg hother, if_pos hbase, hurl]
          simp only [hroot, if_pos]
      · rw [if_neg hroot] at h
        rcases hjoin : url.joinReference reference with fault | joined
        · rw [hjoin] at h
          cases h
        · rw [hjoin] at h
          obtain rfl := Except.ok.inj h
          exact Or.inl (Url.isAbsolute_text (Url.joinReference_scheme (Url.parse_scheme hurl) hjoin))

end Reference

end ModuleLoader
