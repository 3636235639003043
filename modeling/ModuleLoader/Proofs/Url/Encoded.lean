/-
Names that a URL writes with percent signs.

A blank, a letter outside ASCII and some marks may stand in the name of a file.  A URL reads them
where they stand and writes them as percent signs and digits.  This never makes a dot segment of a
segment that is none (`notDots_encode`), so a scheme and a name are the URL with the segments of the
name, each in its written form (`parse_named`).  The written form is the name itself if and only if
there is nothing in it to encode (`encode_eq_self_iff`).
-/
import ModuleLoader.Proofs.Url.Join

namespace ModuleLoader

open Text

namespace Text.Percent

variable {set : Char → Bool} {c : Char} {cs : List Char}

/-- A character that is written as it stands. -/
def Kept (set : Char → Bool) (c : Char) : Prop := c.toNat < 0x80 ∧ set c = false

instance (set : Char → Bool) (c : Char) : Decidable (Kept set c) :=
  inferInstanceAs (Decidable (c.toNat < 0x80 ∧ set c = false))

theorem encode_append (front back : List Char) :
    encode set (front ++ back) = encode set front ++ encode set back := List.flatMap_append

theorem encode_cons (c : Char) (cs : List Char) :
    encode set (c :: cs) = encode set [c] ++ encode set cs := encode_append [c] cs

theorem encode_of_kept (h : Kept set c) : encode set [c] = [c] :=
  encode_eq_self fun d hd => by
    rw [List.mem_singleton.mp hd]
    exact h

theorem encode_of_not_kept (h : ¬ Kept set c) :
    encode set [c] = (String.utf8EncodeChar c).flatMap triple := by
  have hkeep : ¬ (decide (c.toNat < 0x80) && !set c) = true := by simpa [Kept] using h
  unfold encode
  rw [List.flatMap_singleton, if_neg hkeep]

/-- A character outside ASCII has no byte of ASCII. -/
theorem utf8EncodeChar_eq_cons (c : Char) :
    ∃ b bytes, String.utf8EncodeChar c = b :: bytes ∧ (c.toNat < 0x80 → b.toNat = c.toNat) ∧
      (0x80 ≤ c.toNat → 0x80 ≤ b.toNat) := by
  have hnat : c.toNat = c.val.toNat := rfl
  unfold String.utf8EncodeChar
  simp only
  split
  · refine ⟨_, _, rfl, fun hlt => ?_, fun hge => ?_⟩
    · rw [UInt8.toNat_ofNat']
      omega
    · omega
  · split
    · refine ⟨_, _, rfl, fun hlt => ?_, fun hge => ?_⟩
      · omega
      · rw [UInt8.toNat_ofNat']
        omega
    · split
      · refine ⟨_, _, rfl, fun hlt => ?_, fun hge => ?_⟩
        · omega
        · rw [UInt8.toNat_ofNat']
          omega
      · refine ⟨_, _, rfl, fun hlt => ?_, fun hge => ?_⟩
        · omega
        · rw [UInt8.toNat_ofNat']
          omega

/-- What a character is written as begins with itself or with the first of its bytes. -/
theorem encode_singleton_cases (set : Char → Bool) (c : Char) :
    (Kept set c ∧ encode set [c] = [c]) ∨
      (¬ Kept set c ∧ ∃ b rest, encode set [c] = triple b ++ rest ∧
        (c.toNat < 0x80 → b.toNat = c.toNat) ∧ (0x80 ≤ c.toNat → 0x80 ≤ b.toNat)) := by
  by_cases h : Kept set c
  · exact Or.inl ⟨h, encode_of_kept h⟩
  · obtain ⟨b, bytes, hbytes, hlow, hhigh⟩ := utf8EncodeChar_eq_cons c
    refine Or.inr ⟨h, b, bytes.flatMap triple, ?_, hlow, hhigh⟩
    rw [encode_of_not_kept h, hbytes, List.flatMap_cons]

/-- Encoding never makes a text shorter, and longer wherever it does anything. -/
theorem length_encode (cs : List Char) :
    cs.length ≤ (encode set cs).length ∧
      ((encode set cs).length = cs.length → ∀ c ∈ cs, Kept set c) := by
  induction cs with
  | nil => exact ⟨Nat.le_refl 0, fun _ => nofun⟩
  | cons c rest ih =>
      obtain ⟨hle, hkept⟩ := ih
      rw [encode_cons, List.length_append, List.length_cons]
      rcases encode_singleton_cases set c with ⟨hc, hself⟩ | ⟨-, b, more, hwritten, -, -⟩
      · rw [hself, List.length_singleton]
        refine ⟨by omega, fun heq => ?_⟩
        have hrest := hkept (by omega)
        intro d hd
        rcases List.mem_cons.mp hd with rfl | hd
        · exact hc
        · exact hrest d hd
      · have htriple : (triple b).length = 3 := rfl
        rw [hwritten, List.length_append, htriple]
        exact ⟨by omega, fun heq => by omega⟩

/-- A text is its own written form if and only if every character is written as it stands. -/
theorem encode_eq_self_iff : encode set cs = cs ↔ ∀ c ∈ cs, Kept set c :=
  ⟨fun h => (length_encode cs).2 (congrArg List.length h), fun h => encode_eq_self h⟩

/-- A separator that is written as it stands separates the written forms of the pieces. -/
theorem encode_join {sep : Char} (h : Kept set sep) (pieces : List (List Char)) :
    encode set (join sep pieces) = join sep (pieces.map (encode set)) := by
  induction pieces with
  | nil => rfl
  | cons piece rest ih =>
      rcases rest with _ | ⟨next, rest⟩
      · rfl
      · rw [join_cons_cons, encode_append, encode_cons, encode_of_kept h, ih]
        rfl

/-- What is written begins with a character that is written as it stands only if the text does. -/
theorem encode_ne_cons (hc : c ≠ '%') (h : ∀ rest, cs ≠ c :: rest) (rest : List Char) :
    encode set cs ≠ c :: rest := by
  intro heq
  rcases cs with _ | ⟨first, more⟩
  · cases heq
  · rw [encode_cons] at heq
    rcases encode_singleton_cases set first with ⟨-, hself⟩ | ⟨-, b, tail, hwritten, -, -⟩
    · rw [hself] at heq
      exact h more (by rw [(List.cons.inj heq).1])
    · rw [hwritten] at heq
      exact hc (List.cons.inj heq).1.symm

end Text.Percent

namespace Url

open Percent (Kept)

/-! ### Dot segments -/

/-- The ways to write a dot segment. -/
def dotForms : List (List Char) :=
  [".", "%2e", "..", ".%2e", "%2e.", "%2e%2e"].map String.toList

theorem mem_dotForms {s : List Char} (h : ¬ NotDots s) : s.map Char.toLower ∈ dotForms := by
  have hlist : ∀ form : String, String.ofList (s.map Char.toLower) = form →
      s.map Char.toLower = form.toList := by
    rintro form rfl
    exact String.toList_ofList.symm
  simp only [NotDots, isDot, isDotDot, not_and_or, Bool.not_eq_false, decide_eq_true_eq,
    List.mem_cons, List.not_mem_nil, or_false] at h
  unfold dotForms
  simp only [List.map_cons, List.map_nil, List.mem_cons, List.not_mem_nil, or_false]
  rcases h with (h | h) | h | h | h | h <;> simp [hlist _ h]

/-- In a dot segment a percent sign stands for a point. -/
theorem percent_in_dotForms {form : List Char} (hform : form ∈ dotForms) {x y : Char}
    (h : ['%', x, y] <:+: form) : x = '2' ∧ y = 'e' := by
  unfold dotForms at hform
  simp only [List.map_cons, List.map_nil, List.mem_cons, List.not_mem_nil, or_false] at hform
  rcases hform with rfl | rfl | rfl | rfl | rfl | rfl <;>
    simp [List.infix_cons_iff, List.cons_prefix_cons] at h <;> exact h

/-- The only byte that is written with these digits is that of a point. -/
theorem eq_point_of_digits {b : UInt8}
    (hhi : (Percent.hexDigit (b.toNat / 16)).toLower = '2')
    (hlo : (Percent.hexDigit (b.toNat % 16)).toLower = 'e') : b.toNat = 0x2E := by
  have hb : b.toNat < 256 := b.toNat_lt
  have htwo : ∀ n : Fin 16, (Percent.hexDigit n).toLower = '2' → n.val = 2 := by decide
  have hfourteen : ∀ n : Fin 16, (Percent.hexDigit n).toLower = 'e' → n.val = 14 := by decide
  have hhigh := htwo ⟨b.toNat / 16, by omega⟩ hhi
  have hlow := hfourteen ⟨b.toNat % 16, by omega⟩ hlo
  simp only at hhigh hlow
  omega

/-- A dot segment has nothing in it that a path encodes, so none comes about by encoding. -/
theorem notDots_encode {s : List Char} (h : NotDots s) :
    NotDots (Percent.encode Percent.path s) := by
  by_contra hdots
  have hform := mem_dotForms hdots
  have hkept : ∀ c ∈ s, Kept Percent.path c := by
    intro c hc
    obtain ⟨front, back, rfl⟩ := List.append_of_mem hc
    rcases Percent.encode_singleton_cases Percent.path c with
      ⟨hc, -⟩ | ⟨hnot, b, rest, hwritten, hlow, hhigh⟩
    · exact hc
    · -- The digits of its first byte would be those of a point, which stands as it is.
      rw [Percent.encode_append, Percent.encode_cons, hwritten] at hform
      have hinfix : ['%', (Percent.hexDigit (b.toNat / 16)).toLower,
          (Percent.hexDigit (b.toNat % 16)).toLower] <:+: _ :=
        ⟨(Percent.encode Percent.path front).map Char.toLower,
          (rest ++ Percent.encode Percent.path back).map Char.toLower, rfl⟩
      obtain ⟨hhi, hlo⟩ := percent_in_dotForms hform (by
        simpa [Percent.triple] using hinfix)
      have hpoint := eq_point_of_digits hhi hlo
      exfalso
      rcases Nat.lt_or_ge c.toNat 0x80 with hlt | hge
      · have hc : c = '.' := by
          rw [← Char.ofNat_toNat c, ← hlow hlt, hpoint]
        rw [hc] at hnot
        exact hnot (by decide)
      · have := hhigh hge
        omega
  rw [Percent.encode_eq_self_iff.mpr hkept] at hdots
  exact hdots h

/-! ### Names behind a scheme -/

/-- A name that is read as a path to its end, segment by segment: none but the last is empty, and
none is a dot segment. -/
structure Named (name : List Char) : Prop extends Readable name where
  nonempty : ∀ s ∈ (split '/' name).dropLast, s ≠ []
  notDots : ∀ s ∈ split '/' name, NotDots s

instance (name : List Char) : Decidable (Named name) :=
  decidable_of_iff (Readable name ∧ (∀ s ∈ (split '/' name).dropLast, s ≠ []) ∧
      ∀ s ∈ split '/' name, NotDots s)
    ⟨fun h => ⟨h.1, h.2.1, h.2.2⟩, fun h => ⟨h.toReadable, h.nonempty, h.notDots⟩⟩

/-- The segments of a name as a URL writes them. -/
def writtenSegments (name : List Char) : List (List Char) :=
  (split '/' name).map (Percent.encode Percent.path)

theorem join_writtenSegments (name : List Char) :
    join '/' (writtenSegments name) = Percent.encode Percent.path name := by
  unfold writtenSegments
  rw [← Percent.encode_join (by decide), join_split]

variable {scheme name : List Char}

theorem Named.ne_slash (h : Named name) (rest : List Char) : name ≠ '/' :: rest :=
  ne_slash_of_nonempty h.nonempty rest

/-- **A scheme and a name are the URL with the segments of the name as they are written.** -/
theorem parse_named (hscheme : IsGeneric scheme) (hname : Named name) :
    parse (String.ofList (scheme ++ ':' :: '/' :: name))
      = .ok (rooted scheme (writtenSegments name)) := by
  have hpieces : pathPieces .generic name = writtenSegments name := rfl
  rw [parse_generic hscheme hname.toReadable hname.ne_slash]
  unfold pathOnto
  rw [hpieces, segmentsOnto_of_notDots]
  · rfl
  · intro s hs
    obtain ⟨segment, hsegment, rfl⟩ := List.mem_map.mp hs
    exact notDots_encode (hname.notDots segment hsegment)

/-- The URL is written as the scheme and the written form of the name. -/
theorem chars_named (hname : Named name) :
    (rooted scheme (writtenSegments name)).chars
      = scheme ++ ':' :: '/' :: Percent.encode Percent.path name := by
  rw [← join_writtenSegments]
  refine chars_rooted (by simp [writtenSegments, split_ne_nil]) fun s hs => ?_
  unfold writtenSegments at hs
  rw [← List.map_dropLast] at hs
  obtain ⟨segment, hsegment, rfl⟩ := List.mem_map.mp hs
  intro hempty
  have hlength : segment.length ≤ (Percent.encode Percent.path segment).length :=
    (Percent.length_encode segment).1
  rw [hempty] at hlength
  exact hname.nonempty segment hsegment (List.eq_nil_of_length_eq_zero (Nat.le_zero.mp hlength))

end Url

end ModuleLoader
