/-
What the text of a reference says about it.

A relative reference begins with dots and a slash, so it names no URL, it is resolved against a
logical path whatever else it holds, and it is seen to be relative before its last segment.  A
text without a colon is a logical path.
-/
import ModuleLoader.Proofs.Path.Segments
import ModuleLoader.Reference

namespace ModuleLoader

open Text

namespace Text

/-- A text without a colon names no URL, and one without a backslash is looked up in the
archive as it is written. -/
structure Plain (cs : List Char) : Prop where
  colon : ':' ∉ cs
  backslash : '\\' ∉ cs

instance (cs : List Char) : Decidable (Plain cs) :=
  decidable_of_iff (':' ∉ cs ∧ '\\' ∉ cs) ⟨fun h => ⟨h.1, h.2⟩, fun h => ⟨h.colon, h.backslash⟩⟩

theorem Plain.append {xs ys : List Char} (hx : Plain xs) (hy : Plain ys) : Plain (xs ++ ys) := by
  refine ⟨?_, ?_⟩
  · simp [hx.colon, hy.colon]
  · simp [hx.backslash, hy.backslash]

theorem Plain.of_subset {xs ys : List Char} (hx : Plain xs)
    (h : ∀ c ∈ ys, c ≠ '/' → c ∈ xs) : Plain ys := by
  refine ⟨?_, ?_⟩
  · exact fun hc => hx.colon (h _ hc (by decide))
  · exact fun hc => hx.backslash (h _ hc (by decide))

end Text

namespace Reference

/-! ### Relative and plain references -/

theorem isAbsolute_of_not_mem {u : String} (h : ':' ∉ u.toList) : isAbsolute u = false := by
  unfold isAbsolute isAbsoluteChars
  rw [cut?_eq_none_iff.mpr h]

theorem isAbsolute_of_plain {u : String} (h : Plain u.toList) : isAbsolute u = false :=
  isAbsolute_of_not_mem h.colon

/-- Whether a text is a URL is seen before an ending without a colon. -/
theorem isAbsoluteChars_append {stem ending : List Char} (h : ':' ∉ ending) :
    isAbsoluteChars (stem ++ ending) = isAbsoluteChars stem := by
  unfold isAbsoluteChars
  rcases hcut : cut? ':' stem with _ | ⟨before, after⟩
  · have hcolon : ':' ∉ stem ++ ending := by
      simp [cut?_eq_none_iff.mp hcut, h]
    rw [cut?_eq_none_iff.mpr hcolon]
  · obtain ⟨hstem, hbefore⟩ := cut?_eq_some_iff.mp hcut
    have hwhole : cut? ':' (stem ++ ending) = some (before, after ++ ending) := by
      refine cut?_eq_some_iff.mpr ⟨?_, hbefore⟩
      rw [hstem, List.append_assoc]
      rfl
    rw [hwhole]
    rcases before with _ | ⟨c, scheme⟩ <;> rfl

/-- What looks like a URL has a scheme. -/
theorem isAbsolute_of_looksLikeUrl {specifier : String} (h : looksLikeUrl specifier = true) :
    isAbsolute specifier = true := by
  unfold looksLikeUrl looksLikeUrlChars at h
  unfold isAbsolute isAbsoluteChars
  rcases hcut : cut? ':' specifier.toList with _ | ⟨_ | ⟨c, scheme⟩, rest⟩
  · rw [hcut] at h
    cases h
  · rw [hcut] at h
    cases h
  · rw [hcut] at h
    simp only [List.all_cons, Bool.and_eq_true] at h
    obtain ⟨⟨-, hfirst, hscheme⟩, -⟩ := h
    have hletter : ∀ {c : Char}, c.isLower = true → c.isAlpha = true := by
      intro c hc
      show (c.isUpper || c.isLower) = true
      rw [hc, Bool.or_true]
    simp only [hletter hfirst, Bool.true_and, List.all_eq_true]
    intro d hd
    have hd := hletter (List.all_eq_true.mp hscheme d hd)
    simp [Url.isSchemeChar, Char.isAlphanum, hd]

/-- A relative reference begins with dots and a slash. -/
theorem isRelative_iff {specifier : String} :
    isRelative specifier = true ↔
      ∃ dots, (dots = ['.'] ∨ dots = ['.', '.']) ∧ ∃ rest, specifier.toList = dots ++ '/' :: rest := by
  unfold isRelative isRelativeChars
  rw [Bool.or_eq_true, Option.isSome_iff_exists, Option.isSome_iff_exists]
  constructor
  · rintro (⟨rest, h⟩ | ⟨rest, h⟩)
    · have heq : specifier.toList = "./".toList ++ rest := dropStart?_eq_some_iff.mp h
      exact ⟨['.'], Or.inl rfl, rest, heq⟩
    · have heq : specifier.toList = "../".toList ++ rest := dropStart?_eq_some_iff.mp h
      exact ⟨['.', '.'], Or.inr rfl, rest, heq⟩
  · rintro ⟨dots, rfl | rfl, rest, heq⟩
    · exact Or.inl ⟨rest, dropStart?_eq_some_iff.mpr heq⟩
    · exact Or.inr ⟨rest, dropStart?_eq_some_iff.mpr heq⟩

/-- A text that begins with a scheme does not begin with a dot. -/
theorem isRelative_of_isAbsolute {name : String} (h : isAbsolute name = true) :
    isRelative name = false := by
  rw [← Bool.not_eq_true]
  intro hrel
  obtain ⟨dots, hdots, rest, heq⟩ := isRelative_iff.mp hrel
  have hfirst : ∃ more, name.toList = '.' :: more := by
    rcases hdots with rfl | rfl
    · exact ⟨_, heq⟩
    · exact ⟨_, heq⟩
  obtain ⟨more, hmore⟩ := hfirst
  unfold isAbsolute isAbsoluteChars at h
  rw [hmore] at h
  rcases hcut : cut? ':' ('.' :: more) with _ | ⟨before, after⟩
  · rw [hcut] at h
    cases h
  · rw [hcut] at h
    obtain ⟨hwhole, -⟩ := cut?_eq_some_iff.mp hcut
    rcases before with _ | ⟨c, scheme⟩
    · cases h
    · obtain ⟨rfl, -⟩ := List.cons.inj hwhole
      cases h

theorem isRooted_of_isRelative {specifier : String} (h : isRelative specifier = true) :
    Path.isRooted specifier.toList = false := by
  obtain ⟨dots, hdots, rest, heq⟩ := isRelative_iff.mp h
  rw [heq]
  rcases hdots with rfl | rfl <;> rfl

/-- Whether a reference is relative is seen before its last segment. -/
theorem isRelative_of_append {stem ending other : String} (hending : '/' ∉ ending.toList)
    (h : isRelative (stem ++ ending) = true) : isRelative (stem ++ other) = true := by
  obtain ⟨dots, hdots, rest, heq⟩ := isRelative_iff.mp h
  rw [String.toList_append] at heq
  obtain ⟨rest', hrest'⟩ := stem_of_separator hending heq.symm
  refine isRelative_iff.mpr ⟨dots, hdots, rest' ++ other.toList, ?_⟩
  rw [String.toList_append, ← hrest']
  simp

/-- A relative reference is resolved against a logical path whatever it holds. -/
theorem resolve_of_relative {base reference : String} (hbase : isAbsolute base = false)
    (hrel : isRelative reference = true) :
    resolve base reference = .ok (String.ofList
      (Path.normalizeChars (Path.directory base.toList ++ reference.toList))) := by
  have habs : isAbsolute reference = false := by
    rw [← Bool.not_eq_true]
    intro habs
    rw [isRelative_of_isAbsolute habs] at hrel
    cases hrel
  unfold resolve resolveLogical
  rw [habs, hbase, isRooted_of_isRelative hrel]
  rfl

/-- No character but a slash comes up in the target of a reference that is neither in the logical
path nor in the reference. -/
theorem mem_of_resolve {base reference target : String} {c : Char} (hbase : isAbsolute base = false)
    (hrel : isRelative reference = true) (h : resolve base reference = .ok target)
    (hslash : c ≠ '/') (hc : c ∈ target.toList) : c ∈ base.toList ∨ c ∈ reference.toList := by
  obtain rfl := Except.ok.inj ((resolve_of_relative hbase hrel).symm.trans h)
  rw [String.toList_ofList] at hc
  rcases List.mem_append.mp (Path.mem_normalizeChars hc hslash) with hc | hc
  · exact Or.inl ((Path.directory_start _).subset hc)
  · exact Or.inr hc

end Reference

end ModuleLoader
