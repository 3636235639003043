/-
Texts that a URL is read from as they stand.

Letters, digits, points, underscores and dashes are read and written as themselves everywhere in
a URL: they are neither trimmed nor skipped, they end no part, and no part encodes them.  So a
scheme, a colon and a path of such characters, from the root and without dot segments, is the URL
with this scheme and the segments of the path, and it is written as it was read (`parse_rooted`).
-/
import ModuleLoader.Proofs.Path.Clean
import ModuleLoader.Proofs.Url.Scheme

namespace ModuleLoader.Url

open Text

/-! ### Characters -/

/-- A character that stands for itself everywhere in a URL. -/
def isUnreserved (c : Char) : Bool := c.isAlphanum || c = '.' || c = '_' || c = '-'

theorem toNat_lt_of_isUnreserved {c : Char} (h : isUnreserved c = true) : c.toNat < 128 := by
  simp only [isUnreserved, Char.isAlphanum, Char.isAlpha, Char.isUpper, Char.isLower, Char.isDigit,
    Bool.or_eq_true, Bool.and_eq_true, decide_eq_true_eq, ge_iff_le, UInt32.le_iff_toNat_le] at h
  rcases h with ((((⟨-, h⟩ | ⟨-, h⟩) | ⟨-, h⟩) | rfl) | rfl) | rfl
  · exact Nat.lt_of_le_of_lt h (by decide)
  · exact Nat.lt_of_le_of_lt h (by decide)
  · exact Nat.lt_of_le_of_lt h (by decide)
  · decide
  · decide
  · decide

/-- What holds of all unreserved characters is seen by looking at each of them. -/
theorem forall_isUnreserved {p : Char → Prop}
    (h : ∀ n : Fin 128, isUnreserved (Char.ofNat n) = true → p (Char.ofNat n)) {c : Char}
    (hc : isUnreserved c = true) : p c := by
  have hn := h ⟨c.toNat, toNat_lt_of_isUnreserved hc⟩
  rw [Char.ofNat_toNat] at hn
  exact hn hc

theorem lt_of_isUnreserved {c : Char} (h : isUnreserved c = true) : ' ' < c :=
  forall_isUnreserved (p := fun c => ' ' < c) (by decide) h

theorem not_encoded_of_isUnreserved {c : Char} (h : isUnreserved c = true) :
    Percent.path c = false ∧ Percent.control c = false ∧ Percent.fragment c = false ∧
      Percent.query c = false ∧ Percent.specialQuery c = false :=
  forall_isUnreserved (p := fun c => Percent.path c = false ∧ Percent.control c = false ∧
    Percent.fragment c = false ∧ Percent.query c = false ∧ Percent.specialQuery c = false)
    (by decide) h

theorem ne_of_isUnreserved {c d : Char} (h : isUnreserved c = true)
    (hd : isUnreserved d = false) : c ≠ d := by
  rintro rfl
  rw [h] at hd
  cases hd

/-! ### Reading a text -/

/-- A text without control characters is read as it stands unless a blank begins or ends it. -/
theorem clean_of_ends {text : List Char} (h : ∀ c ∈ text, ' ' ≤ c) (hfirst : text.head? ≠ some ' ')
    (hlast : text.getLast? ≠ some ' ') : clean text = text := by
  have hkept : ∀ cs : List Char, (∀ c ∈ cs, ' ' ≤ c) → cs.head? ≠ some ' ' →
      cs.dropWhile (· ≤ ' ') = cs := by
    intro cs hcs hhead
    rcases cs with _ | ⟨c, cs⟩
    · rfl
    · have hne : c ≠ ' ' := by simpa using hhead
      refine List.dropWhile_cons_of_neg ?_
      simpa using lt_of_le_of_ne (hcs c List.mem_cons_self) hne.symm
  have hreverse : ∀ c ∈ text.reverse, ' ' ≤ c := fun c hc => h c (List.mem_reverse.mp hc)
  unfold clean
  simp only
  rw [hkept text h hfirst, hkept _ hreverse (by rwa [List.head?_reverse]), List.reverse_reverse,
    List.filter_eq_self]
  intro c hc
  have hle := h c hc
  have hne : c ≠ '\t' ∧ c ≠ '\n' ∧ c ≠ '\r' := by
    refine ⟨?_, ?_, ?_⟩ <;> rintro rfl <;> exact absurd hle (by decide)
  simp [isIgnored, hne.1, hne.2.1, hne.2.2]

/-- A text without blanks and control characters is read as it stands. -/
theorem clean_eq_self {text : List Char} (h : ∀ c ∈ text, ' ' < c) : clean text = text := by
  refine clean_of_ends (fun c hc => (h c hc).le) ?_ ?_
  · exact fun hfirst => absurd (h _ (List.mem_of_mem_head? hfirst)) (by decide)
  · exact fun hlast => absurd (h _ (List.mem_of_getLast? hlast)) (by decide)

/-- A text without `#` and `?` is all one part. -/
theorem parts_eq_main {text : List Char} (hfragment : '#' ∉ text) (hquery : '?' ∉ text) :
    Parts.of text = ⟨text, none, none⟩ := by
  unfold Parts.of
  rw [cut?_eq_none_iff.mpr hfragment]
  simp only
  rw [cut?_eq_none_iff.mpr hquery]

theorem encode_of_isUnreserved {cs : List Char} (h : ∀ c ∈ cs, isUnreserved c = true) :
    Percent.encode Percent.path cs = cs :=
  Percent.encode_eq_self fun c hc =>
    ⟨toNat_lt_of_isUnreserved (h c hc), (not_encoded_of_isUnreserved (h c hc)).1⟩

/-- A path does not begin with a slash if no segment but the last one is empty. -/
theorem ne_slash_of_nonempty {path : List Char} (h : ∀ s ∈ (split '/' path).dropLast, s ≠ [])
    (rest : List Char) : path ≠ '/' :: rest := by
  rintro rfl
  refine h [] ?_ rfl
  rw [split_cons_self, List.dropLast_cons_of_ne_nil (split_ne_nil '/' rest)]
  exact List.mem_cons_self

/-- A path of unreserved characters, whose segments are not empty but for the last one perhaps. -/
structure Unreserved (path : List Char) : Prop where
  chars : ∀ s ∈ split '/' path, ∀ c ∈ s, isUnreserved c = true
  nonempty : ∀ s ∈ (split '/' path).dropLast, s ≠ []

instance (path : List Char) : Decidable (Unreserved path) :=
  decidable_of_iff ((∀ s ∈ split '/' path, s.all isUnreserved = true) ∧
      ∀ s ∈ (split '/' path).dropLast, s ≠ [])
    ⟨fun h => ⟨fun s hs => List.all_eq_true.mp (h.1 s hs), h.2⟩,
      fun h => ⟨fun s hs => List.all_eq_true.mpr (h.chars s hs), h.nonempty⟩⟩

namespace Unreserved

variable {path : List Char}

theorem of_mem (h : Unreserved path) {c : Char} (hc : c ∈ path) : c = '/' ∨ isUnreserved c = true := by
  rw [← join_split '/' path] at hc
  rcases mem_join hc with hslash | ⟨s, hs, hc⟩
  · exact Or.inl hslash
  · exact Or.inr (h.chars s hs c hc)

theorem not_mem (h : Unreserved path) {c : Char} (hslash : c ≠ '/') (hc : isUnreserved c = false) :
    c ∉ path := by
  intro hmem
  rcases h.of_mem hmem with heq | hmem
  · exact hslash heq
  · rw [hmem] at hc
    cases hc

theorem lt_of_mem (h : Unreserved path) {c : Char} (hc : c ∈ path) : ' ' < c := by
  rcases h.of_mem hc with rfl | hc
  · decide
  · exact lt_of_isUnreserved hc

/-- Such a path does not begin with a slash. -/
theorem ne_slash (h : Unreserved path) (rest : List Char) : path ≠ '/' :: rest :=
  ne_slash_of_nonempty h.nonempty rest

/-- The pieces that a URL is put together from are the segments as they stand. -/
theorem pathPieces_eq (h : Unreserved path) : pathPieces .generic path = split '/' path := by
  unfold pathPieces
  simp only [SchemeClass.isSpecial, Bool.false_eq_true, if_false]
  refine (List.map_congr_left fun s hs => ?_).trans (List.map_id' _)
  exact encode_of_isUnreserved (h.chars s hs)

end Unreserved

/-! ### Segments -/

/-- A segment that is no dot segment, however it is written. -/
def NotDots (s : List Char) : Prop := isDot s = false ∧ isDotDot s = false

instance (s : List Char) : Decidable (NotDots s) :=
  inferInstanceAs (Decidable (isDot s = false ∧ isDotDot s = false))

theorem enter_of_notDots {s : List Char} (h : NotDots s) (closed : List (List Char)) :
    enter .generic closed s = s :: closed := by
  unfold enter
  rw [h.1, h.2, if_neg Bool.false_ne_true, if_neg Bool.false_ne_true, if_neg]
  rintro ⟨hfile, -⟩
  cases hfile

/-- Segments without dot segments are the segments of a path as they stand. -/
theorem segmentsOnto_of_notDots {pieces : List (List Char)} (h : ∀ s ∈ pieces, NotDots s) :
    segmentsOnto .generic [] pieces = pieces := by
  have hfold : ∀ (pieces closed : List (List Char)), (∀ s ∈ pieces, NotDots s) →
      pieces.foldl (enter .generic) closed = pieces.reverse ++ closed := by
    intro pieces
    induction pieces with
    | nil => intro closed _; rfl
    | cons s rest ih =>
        intro closed hdots
        rw [List.foldl_cons, enter_of_notDots (hdots s List.mem_cons_self),
          ih _ fun t ht => hdots t (List.mem_cons_of_mem _ ht)]
        simp
  unfold segmentsOnto
  rw [hfold _ [] h, List.append_nil, List.reverse_reverse]
  rcases hlast : pieces.getLast? with _ | last
  · rfl
  · obtain ⟨hdot, hup⟩ := h last (List.mem_of_getLast? hlast)
    simp only [hdot, hup]
    rfl

section Segment

variable {s : List Char} (h : ∀ c ∈ s, isUnreserved c = true)

include h

theorem lower_eq_dots {k : Nat} (hs : s.map Char.toLower = List.replicate k '.') :
    s = List.replicate k '.' := by
  rw [List.eq_replicate_iff] at hs ⊢
  refine ⟨by simpa using hs.1, ?_⟩
  intro c hc
  have hlower := hs.2 c.toLower (List.mem_map_of_mem hc)
  exact forall_isUnreserved (p := fun c => c.toLower = '.' → c = '.') (by decide) (h c hc) hlower

theorem percent_not_mem_lower : '%' ∉ s.map Char.toLower := by
  intro hmem
  obtain ⟨c, hc, heq⟩ := List.mem_map.mp hmem
  exact forall_isUnreserved (p := fun c => c.toLower ≠ '%') (by decide) (h c hc) heq

theorem isDot_iff : isDot s = true ↔ s = ['.'] := by
  refine ⟨fun hdot => ?_, fun heq => by rw [heq]; decide⟩
  simp only [isDot, List.mem_cons, List.not_mem_nil, or_false, decide_eq_true_eq] at hdot
  rcases hdot with hdot | hdot
  · have hlist := congrArg String.toList hdot
    rw [String.toList_ofList] at hlist
    exact lower_eq_dots h (k := 1) hlist
  · have hlist := congrArg String.toList hdot
    rw [String.toList_ofList] at hlist
    refine absurd ?_ (percent_not_mem_lower h)
    rw [hlist]
    decide

theorem isDotDot_iff : isDotDot s = true ↔ s = ['.', '.'] := by
  refine ⟨fun hdots => ?_, fun heq => by rw [heq]; decide⟩
  simp only [isDotDot, List.mem_cons, List.not_mem_nil, or_false, decide_eq_true_eq] at hdots
  rcases hdots with hdots | hdots | hdots | hdots
  · have hlist := congrArg String.toList hdots
    rw [String.toList_ofList] at hlist
    exact lower_eq_dots h (k := 2) hlist
  all_goals
    have hlist := congrArg String.toList hdots
    rw [String.toList_ofList] at hlist
    refine absurd ?_ (percent_not_mem_lower h)
    rw [hlist]
    decide

theorem notDots_iff : NotDots s ↔ s ≠ ['.'] ∧ s ≠ ['.', '.'] := by
  unfold NotDots
  rw [Bool.eq_false_iff, Bool.eq_false_iff, Ne, Ne, isDot_iff h, isDotDot_iff h]

/-- A segment that is no dot segment is put on top of the others. -/
theorem enter_name (hdot : s ≠ ['.']) (hup : s ≠ ['.', '.']) (closed : List (List Char)) :
    enter .generic closed s = s :: closed :=
  enter_of_notDots ((notDots_iff h).mpr ⟨hdot, hup⟩) closed

end Segment

/-! ### URLs from the root -/

/-- A scheme as it is written in a URL. -/
structure IsLowerScheme (scheme : List Char) : Prop where
  isScheme : IsScheme scheme
  lower : ∀ c ∈ scheme, c.isUpper = false

/-- A scheme in lower case that has no rules of its own. -/
structure IsGeneric (scheme : List Char) : Prop extends IsLowerScheme scheme where
  generic : SchemeClass.of scheme = .generic

/-- A path of unreserved characters in which no segment is a dot segment. -/
structure Names (path : List Char) : Prop extends Unreserved path where
  notDots : ∀ s ∈ split '/' path, s ≠ ['.'] ∧ s ≠ ['.', '.']

instance (path : List Char) : Decidable (Names path) :=
  decidable_of_iff (Unreserved path ∧ ∀ s ∈ split '/' path, s ≠ ['.'] ∧ s ≠ ['.', '.'])
    ⟨fun h => ⟨h.1, h.2⟩, fun h => ⟨h.toUnreserved, h.notDots⟩⟩

/-- The URL with a scheme and a path from the root, and nothing else. -/
def rooted (scheme : List Char) (segments : List (List Char)) : Url :=
  { scheme := scheme, path := .segments segments }

variable {scheme path : List Char}

theorem isSchemeChar_of_mem (h : IsScheme scheme) {c : Char} (hc : c ∈ scheme) :
    isSchemeChar c = true := by
  rcases scheme with _ | ⟨first, name⟩
  · cases hc
  · rcases List.mem_cons.mp hc with rfl | hc
    · simp [isSchemeChar, Char.isAlphanum, h.1]
    · exact List.all_eq_true.mp h.2 c hc

theorem isUnreserved_or_plus {c : Char} (h : isSchemeChar c = true) :
    isUnreserved c = true ∨ c = '+' := by
  simp only [isSchemeChar, Bool.or_eq_true, decide_eq_true_eq] at h
  rcases h with ((h | h) | rfl) | rfl
  · exact Or.inl (by simp [isUnreserved, h])
  · exact Or.inr h
  · exact Or.inl (by decide)
  · exact Or.inl (by decide)

namespace IsLowerScheme

theorem lt_of_mem (h : IsLowerScheme scheme) {c : Char} (hc : c ∈ scheme) : ' ' < c := by
  rcases isUnreserved_or_plus (isSchemeChar_of_mem h.isScheme hc) with hc | rfl
  · exact lt_of_isUnreserved hc
  · decide

theorem not_mem (h : IsLowerScheme scheme) {c : Char} (hplus : c ≠ '+') (hc : isUnreserved c = false) :
    c ∉ scheme := by
  intro hmem
  rcases isUnreserved_or_plus (isSchemeChar_of_mem h.isScheme hmem) with hmem | heq
  · rw [hmem] at hc
    cases hc
  · exact hplus heq

theorem scheme?_eq (h : IsLowerScheme scheme) (rest : List Char) :
    scheme? (scheme ++ ':' :: rest) = some (scheme, rest) := by
  have hcut : cut? ':' (scheme ++ ':' :: rest) = some (scheme, rest) :=
    cut?_eq_some_iff.mpr ⟨rfl, colon_not_mem_of_isScheme h.isScheme⟩
  have hlower : scheme.map Char.toLower = scheme := by
    refine (List.map_congr_left fun c hc => ?_).trans (List.map_id' _)
    exact Char.toLower_eq_of_not_isUpper (by simp [h.lower c hc])
  unfold scheme?
  rw [hcut]
  rcases hform : scheme with _ | ⟨first, name⟩
  · have hscheme := h.isScheme
    rw [hform] at hscheme
    exact hscheme.elim
  · have hscheme := h.isScheme
    rw [hform] at hscheme hlower
    simp only [hscheme.1, hscheme.2, Bool.and_self, if_true, hlower]

end IsLowerScheme

theorem Names.pathOnto_eq (h : Names path) :
    pathOnto .generic [] path = .segments (split '/' path) := by
  unfold pathOnto
  rw [h.pathPieces_eq, segmentsOnto_of_notDots fun s hs =>
    (notDots_iff (h.chars s hs)).mpr (h.notDots s hs)]
  rfl

/-- A text that is read as a path to its end: it has no control characters, no blank at its end, and
nothing in it begins a query or a fragment. -/
structure Readable (path : List Char) : Prop where
  noControl : ∀ c ∈ path, ' ' ≤ c
  noBlank : path.getLast? ≠ some ' '
  noFragment : '#' ∉ path
  noQuery : '?' ∉ path

instance (path : List Char) : Decidable (Readable path) :=
  decidable_of_iff (path.all (' ' ≤ ·) = true ∧ path.getLast? ≠ some ' ' ∧ '#' ∉ path ∧ '?' ∉ path)
    ⟨fun h => ⟨by simpa using h.1, h.2.1, h.2.2.1, h.2.2.2⟩,
      fun h => ⟨by simpa using h.noControl, h.noBlank, h.noFragment, h.noQuery⟩⟩

theorem Unreserved.readable (h : Unreserved path) : Readable path where
  noControl c hc := (h.lt_of_mem hc).le
  noBlank hlast := absurd (h.lt_of_mem (List.mem_of_getLast? hlast)) (by decide)
  noFragment := h.not_mem (by decide) (by decide)
  noQuery := h.not_mem (by decide) (by decide)

/-- A scheme and a path from the root are read by the rules of the scheme. -/
theorem parse_readable (hscheme : IsLowerScheme scheme) (hpath : Readable path) :
    parse (String.ofList (scheme ++ ':' :: '/' :: path))
      = parseAbsolute none scheme ⟨scheme ++ ':' :: '/' :: path, none, none⟩ ('/' :: path) := by
  have hcontrol : ∀ c ∈ scheme ++ ':' :: '/' :: path, ' ' ≤ c := by
    intro c hc
    rcases List.mem_append.mp hc with hc | hc
    · exact (hscheme.lt_of_mem hc).le
    · rcases List.mem_cons.mp hc with rfl | hc
      · decide
      · rcases List.mem_cons.mp hc with rfl | hc
        · decide
        · exact hpath.noControl c hc
  have hfirst : (scheme ++ ':' :: '/' :: path).head? ≠ some ' ' := by
    rcases hform : scheme with _ | ⟨first, name⟩
    · simp
    · rintro ⟨⟩
      rw [hform] at hscheme
      exact absurd (hscheme.lt_of_mem List.mem_cons_self) (by decide)
  have hlast : (scheme ++ ':' :: '/' :: path).getLast? ≠ some ' ' := by
    rcases hform : path with _ | ⟨first, rest⟩
    · simp
    · have hblank := hpath.noBlank
      rw [hform] at hblank
      simpa [List.getLast?_append, List.getLast?_cons_cons] using hblank
  have hpart : ∀ d, d ≠ '+' → d ≠ ':' → d ≠ '/' → isUnreserved d = false → d ∉ path →
      d ∉ scheme ++ ':' :: '/' :: path := by
    intro d hplus hcolon hslash hd hmem
    simp [hscheme.not_mem hplus hd, hcolon, hslash, hmem]
  unfold parse parseChars
  rw [String.toList_ofList, clean_of_ends hcontrol hfirst hlast,
    parts_eq_main (hpart '#' (by decide) (by decide) (by decide) (by decide) hpath.noFragment)
      (hpart '?' (by decide) (by decide) (by decide) (by decide) hpath.noQuery)]
  simp only [hscheme.scheme?_eq]

theorem parse_fromRoot (hscheme : IsLowerScheme scheme) (hpath : Names path) :
    parse (String.ofList (scheme ++ ':' :: '/' :: path))
      = parseAbsolute none scheme ⟨scheme ++ ':' :: '/' :: path, none, none⟩ ('/' :: path) :=
  parse_readable hscheme hpath.readable

/-- Behind a generic scheme one slash begins a path. -/
theorem parse_generic (hscheme : IsGeneric scheme) (hpath : Readable path)
    (hslash : ∀ rest, path ≠ '/' :: rest) :
    parse (String.ofList (scheme ++ ':' :: '/' :: path))
      = .ok { scheme := scheme, path := pathOnto .generic [] path } := by
  have hgeneric : parseGeneric scheme ⟨scheme ++ ':' :: '/' :: path, none, none⟩ ('/' :: path)
      = .ok { scheme := scheme, path := pathOnto .generic [] path } := by
    unfold parseGeneric
    split
    · next rest heq => exact absurd (List.cons.inj heq).2 (hslash rest)
    · next rest hne heq =>
      obtain rfl : path = rest := (List.cons.inj heq).2
      rfl
    · next hne => exact absurd rfl (hne path)
  rw [parse_readable hscheme.toIsLowerScheme hpath]
  unfold parseAbsolute
  simp only [hscheme.generic]
  exact hgeneric

/-- **A scheme and a path from the root are the URL of both.** -/
theorem parse_rooted (hscheme : IsGeneric scheme) (hpath : Names path) :
    parse (String.ofList (scheme ++ ':' :: '/' :: path)) = .ok (rooted scheme (split '/' path)) := by
  rw [parse_generic hscheme hpath.readable hpath.ne_slash, hpath.pathOnto_eq]
  rfl

end ModuleLoader.Url
