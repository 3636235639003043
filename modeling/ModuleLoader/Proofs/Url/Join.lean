/-
References from a URL and from its path.

A URL joins a reference segment by segment, and so does a logical path, but each has its own way
of telling the empty segments, the dot segments and the slash at the end.  On a stack of names
both do the same with every segment of a reference but an empty one, which comes last if at all
(`enter_eq`).  There the URL keeps an empty segment and the path a slash, and the two are written
alike (`chars_followed`).  So a relative reference leads from a URL where it leads from the path
of the URL, whether or not it climbs above the root.
-/
import ModuleLoader.Proofs.Url.Unreserved

namespace ModuleLoader

open Text

namespace Text

/-- Pieces behind one separator each are their join behind a separator. -/
theorem flatMap_cons_eq_join (sep : Char) {pieces : List (List Char)} (h : pieces ≠ []) :
    pieces.flatMap (sep :: ·) = sep :: join sep pieces := by
  induction pieces with
  | nil => exact absurd rfl h
  | cons piece rest ih =>
      rcases rest with _ | ⟨next, rest⟩
      · simp [join]
      · rw [List.flatMap_cons, ih (by simp), join_cons_cons]
        rfl

end Text

namespace Url

/-! ### URLs from the root are written as they are read -/

variable {scheme : List Char} {segments : List (List Char)}

theorem chars_rooted (hne : segments ≠ []) (h : ∀ s ∈ segments.dropLast, s ≠ []) :
    (rooted scheme segments).chars = scheme ++ ':' :: '/' :: join '/' segments := by
  have hguard : (Path.segments segments).guard = [] := by
    unfold Path.guard
    split
    · next next rest heq =>
      obtain rfl := Path.segments.inj heq
      exact absurd rfl (h [] List.mem_cons_self)
    · rfl
  unfold chars rooted
  simp only [hguard, Path.text, flatMap_cons_eq_join '/' hne, List.append_nil]
  simp

theorem isRootless_rooted (hne : segments ≠ []) : (rooted scheme segments).isRootless = false := by
  unfold rooted isRootless
  simp [hne]

/-- A relative reference goes on from the directory of the URL. -/
theorem joinReference_rooted (hscheme : IsGeneric scheme) (hne : segments ≠ []) {reference : String}
    (hreference : Unreserved reference.toList) (hrel : Reference.isRelative reference = true) :
    (rooted scheme segments).joinReference reference
      = .ok (rooted scheme
          (segmentsOnto .generic segments.dropLast.reverse (split '/' reference.toList))) := by
  obtain ⟨dots, hdots, rest, hform⟩ := Reference.isRelative_iff.mp hrel
  obtain ⟨more, hmore⟩ : ∃ more, reference.toList = '.' :: more := by
    rcases hdots with rfl | rfl
    · exact ⟨_, hform⟩
    · exact ⟨_, hform⟩
  have hnone : scheme? reference.toList = none := by
    unfold scheme?
    rw [cut?_eq_none_iff.mpr (hreference.not_mem (by decide) (by decide))]
  have hclass : ¬ SchemeClass.of (rooted scheme segments).scheme = .file := by
    show ¬ SchemeClass.of scheme = .file
    rw [hscheme.generic]
    exact fun h => by cases h
  unfold joinReference parseChars
  rw [clean_eq_self fun c hc => hreference.lt_of_mem hc,
    parts_eq_main (hreference.not_mem (by decide) (by decide))
      (hreference.not_mem (by decide) (by decide))]
  simp only [hnone, Option.isSome_none, Bool.and_false, Bool.false_eq_true, if_false,
    isRootless_rooted hne, hclass]
  unfold parseRelative
  simp only [hmore]
  rw [if_neg (by decide), ← hmore, ← hreference.pathPieces_eq]
  unfold rooted sameDocument
  simp only [hscheme.generic]
  rfl


/-! ### Dot segments -/

/-- The segments of `stack` are names of unreserved characters. -/
def Plainly (stack : List (List Char)) : Prop :=
  ∀ s ∈ stack, (∀ c ∈ s, isUnreserved c = true) ∧ s ≠ [] ∧ s ≠ ['.', '.']

theorem leave_eq_tail {top : List Char} (h : ∀ c ∈ top, isUnreserved c = true)
    (rest : List (List Char)) : leave (top :: rest) = rest := by
  have hmark : ∀ c ∈ top, c ≠ ':' ∧ c ≠ '|' := fun c hc =>
    ⟨ne_of_isUnreserved (h c hc) (by decide), ne_of_isUnreserved (h c hc) (by decide)⟩
  have hdrive : holdsDrive top = false := by
    unfold holdsDrive
    split
    · next a mark =>
      have hmark := hmark mark (by simp)
      simp [hmark.1, hmark.2]
    · next a mark _ =>
      have hmark := hmark mark (by simp)
      simp [hmark.1, hmark.2]
    · rfl
  show (if holdsDrive top = true then top :: rest else rest) = rest
  rw [hdrive]
  rfl

/-- On a stack of names a segment that is not empty does the same in a URL as in a path from the
root. -/
theorem enter_eq {segment : List Char} (hne : segment ≠ [])
    (h : ∀ c ∈ segment, isUnreserved c = true) {stack : List (List Char)} (hstack : Plainly stack) :
    enter .generic stack segment = Path.enter true stack segment ∧
      Plainly (Path.enter true stack segment) := by
  by_cases hdot : segment = ['.']
  · subst hdot
    exact ⟨rfl, hstack⟩
  by_cases hup : segment = ['.', '.']
  · subst hup
    rcases stack with _ | ⟨top, rest⟩
    · exact ⟨rfl, hstack⟩
    · obtain ⟨htop, -, hnot⟩ := hstack top List.mem_cons_self
      have hpath : Path.enter true (top :: rest) ['.', '.'] = rest := by
        unfold Path.enter
        simp [hnot]
      refine ⟨?_, ?_⟩
      · rw [hpath]
        exact leave_eq_tail htop rest
      · rw [hpath]
        exact fun s hs => hstack s (List.mem_cons_of_mem _ hs)
  · have hpath : Path.enter true stack segment = segment :: stack := by
      unfold Path.enter
      rw [if_neg (not_or.mpr ⟨hne, hdot⟩), if_neg hup]
    rw [hpath, enter_name h hdot hup]
    refine ⟨rfl, ?_⟩
    intro s hs
    rcases List.mem_cons.mp hs with rfl | hs
    · exact ⟨h, hne, hup⟩
    · exact hstack s hs

theorem foldl_enter_eq {pieces : List (List Char)} (hne : ∀ s ∈ pieces, s ≠ [])
    (h : ∀ s ∈ pieces, ∀ c ∈ s, isUnreserved c = true) :
    ∀ {stack : List (List Char)}, Plainly stack →
      pieces.foldl (enter .generic) stack = pieces.foldl (Path.enter true) stack ∧
        Plainly (pieces.foldl (Path.enter true) stack) := by
  induction pieces with
  | nil => intro stack hstack; exact ⟨rfl, hstack⟩
  | cons segment rest ih =>
      intro stack hstack
      obtain ⟨heq, hnext⟩ :=
        enter_eq (hne segment List.mem_cons_self) (h segment List.mem_cons_self) hstack
      rw [List.foldl_cons, List.foldl_cons, heq]
      exact ih (fun s hs => hne s (List.mem_cons_of_mem _ hs))
        (fun s hs => h s (List.mem_cons_of_mem _ hs)) hnext

/-- The last segment of a path makes it name a directory. -/
def isClosing (last : List Char) : Bool := last = [] || last = ['.'] || last = ['.', '.']

/-- On a stack of names the segments of a URL are those of a path from the root, and an empty one
behind them where the path names a directory. -/
theorem segmentsOnto_eq {front : List (List Char)} {last : List Char}
    (hne : ∀ s ∈ front, s ≠ []) (h : ∀ s ∈ front ++ [last], ∀ c ∈ s, isUnreserved c = true)
    {stack : List (List Char)} (hstack : Plainly stack) :
    Plainly ((front ++ [last]).foldl (Path.enter true) stack) ∧
      segmentsOnto .generic stack (front ++ [last]) =
        ((front ++ [last]).foldl (Path.enter true) stack).reverse ++
          (if isClosing last = true then [[]] else []) ∧
      (isClosing last = false → (front ++ [last]).foldl (Path.enter true) stack ≠ []) := by
  obtain ⟨hfront, hplainly⟩ :=
    foldl_enter_eq hne (fun s hs => h s (List.mem_append_left _ hs)) hstack
  have hlast := h last (by simp)
  unfold segmentsOnto
  simp only [List.foldl_append, List.foldl_cons, List.foldl_nil,
    List.getLast?_concat, hfront]
  generalize front.foldl (Path.enter true) stack = top at hplainly
  by_cases hnil : last = []
  · subst hnil
    have hpath : Path.enter true top [] = top := Path.enter_nil true top
    rw [hpath]
    refine ⟨hplainly, ?_, fun hclosing => by cases hclosing⟩
    simp [enter, isDot, isDotDot, isClosing]
  · obtain ⟨henter, hnext⟩ := enter_eq hnil hlast hplainly
    have hdots : (isDot last || isDotDot last) = isClosing last := by
      rw [Bool.eq_iff_iff, Bool.or_eq_true, isDot_iff hlast, isDotDot_iff hlast]
      simp [isClosing, hnil]
    rw [henter, hdots]
    refine ⟨hnext, ?_, ?_⟩
    · by_cases hclosing : isClosing last = true
      · simp only [hclosing, if_true]
      · simp only [hclosing, if_false, Bool.false_eq_true, List.append_nil]
    · intro hclosing
      simp only [isClosing, Bool.or_eq_false_iff, decide_eq_false_iff_not] at hclosing
      rw [← henter, enter_name hlast hclosing.1.2 hclosing.2]
      exact List.cons_ne_nil _ _

/-- A URL with such segments is written like the path. -/
theorem chars_followed (scheme : List Char) {stack : List (List Char)} {last : List Char}
    (hstack : Plainly stack) (hne : isClosing last = false → stack ≠ []) :
    (rooted scheme (stack.reverse ++ if isClosing last = true then [[]] else [])).chars =
      scheme ++ ':' :: '/' :: (join '/' stack.reverse ++
        if (isClosing last && !stack.reverse.isEmpty) = true then ['/'] else []) := by
  have hnames : ∀ s ∈ stack.reverse, s ≠ [] := fun s hs => (hstack s (List.mem_reverse.mp hs)).2.1
  by_cases hclosing : isClosing last = true
  · rw [if_pos hclosing, hclosing, chars_rooted (by simp) (by rwa [List.dropLast_concat])]
    by_cases hnil : stack = []
    · rw [hnil]
      rfl
    · have hreverse : stack.reverse ≠ [] := mt List.reverse_eq_nil_iff.mp hnil
      rw [join_append '/' hreverse (List.cons_ne_nil [] [])]
      simp [join, hnil]
  · have hclosing := Bool.eq_false_iff.mpr hclosing
    have hreverse : stack.reverse ≠ [] := mt List.reverse_eq_nil_iff.mp (hne hclosing)
    rw [hclosing, if_neg Bool.false_ne_true, List.append_nil,
      chars_rooted hreverse fun s hs => hnames s (List.mem_of_mem_dropLast hs)]
    simp

end Url

namespace Path

/-! ### Paths from the root -/

/-- What a reference leads to from a path of names that starts at the root. -/
theorem normalizeChars_directory_slash {path reference : List Char} {front : List Segment}
    {last : Segment} (hnames : ∀ s ∈ (split '/' path).dropLast, Ordinary s)
    (hreference : isRooted reference = false) (hsplit : split '/' reference = front ++ [last]) :
    normalizeChars (directory ('/' :: path) ++ reference) =
      '/' :: join '/' ((front ++ [last]).foldl (enter true) (split '/' path).dropLast.reverse).reverse
        ++ (if (Url.isClosing last &&
            !((front ++ [last]).foldl (enter true) (split '/' path).dropLast.reverse).reverse.isEmpty)
            = true then ['/'] else []) := by
  have hbase : follow (directory ('/' :: path)) = (split '/' path).dropLast.reverse := by
    rw [follow_directory, split_cons_self, List.dropLast_cons_of_ne_nil (split_ne_nil '/' path),
      List.foldl_cons, enter_nil, foldl_ordinary hnames, List.append_nil]
  have hfollow : follow (directory ('/' :: path) ++ reference) =
      (front ++ [last]).foldl (enter true) (split '/' path).dropLast.reverse := by
    rw [follow_directory_append _ hreference, hbase, hsplit]
    rfl
  have hwhole : isRooted (directory ('/' :: path) ++ reference) = true :=
    isRooted_directory_append _ hreference
  have hnamesDirectory :
      namesDirectory (directory ('/' :: path) ++ reference) = Url.isClosing last := by
    rw [namesDirectory_directory_append]
    unfold namesDirectory Url.isClosing
    rw [hsplit, List.getLast?_concat]
    simp [Bool.or_assoc]
  rw [normalizeChars_eq, hwhole, hnamesDirectory, hfollow]
  rfl

end Path

namespace Reference

theorem isAbsolute_rooted {path : String} (hpath : Url.Names path.toList) :
    isAbsolute ("/" ++ path) = false := by
  refine isAbsolute_of_not_mem ?_
  rw [String.toList_append]
  intro hmem
  rcases List.mem_append.mp hmem with hmem | hmem
  · exact absurd hmem (by decide)
  · exact hpath.not_mem (by decide) (by decide) hmem

theorem isAbsolute_of_generic {scheme : List Char} (hscheme : Url.IsGeneric scheme) (rest : List Char) :
    isAbsolute (String.ofList (scheme ++ ':' :: rest)) = true := by
  have hcut : cut? ':' (scheme ++ ':' :: rest) = some (scheme, rest) :=
    cut?_eq_some_iff.mpr ⟨rfl, Url.colon_not_mem_of_isScheme hscheme.isScheme⟩
  unfold isAbsolute isAbsoluteChars
  rw [String.toList_ofList, hcut]
  rcases hform : scheme with _ | ⟨c, name⟩
  · have hscheme := hscheme.isScheme
    rw [hform] at hscheme
    exact hscheme.elim
  · have hscheme := hscheme.isScheme
    rw [hform] at hscheme
    simp only [hscheme.1, hscheme.2, Bool.and_self]

/-- **A relative reference leads from a URL where it leads from the path of the URL**, however far
up it goes. -/
theorem resolve_eq_rooted {scheme path reference : String} (hscheme : Url.IsGeneric scheme.toList)
    (hpath : Url.Names path.toList) (hreference : Url.Unreserved reference.toList)
    (hrel : isRelative reference = true) :
    ∃ target, resolve ("/" ++ path) reference = .ok target ∧
      resolve (scheme ++ ":/" ++ path) reference = .ok (scheme ++ ":" ++ target) := by
  have htext : scheme ++ ":/" ++ path
      = String.ofList (scheme.toList ++ ':' :: '/' :: path.toList) := by
    apply String.toList_inj.mp
    simp
  obtain ⟨front, last, hsplit⟩ : ∃ front last, split '/' reference.toList = front ++ [last] := by
    rcases List.eq_nil_or_concat (split '/' reference.toList) with hnil | ⟨front, last, heq⟩
    · exact absurd hnil (split_ne_nil '/' _)
    · exact ⟨front, last, by rw [heq, List.concat_eq_append]⟩
  have hnames : ∀ s ∈ (split '/' path.toList).dropLast, Path.Ordinary s := by
    intro s hs
    have hmem := List.mem_of_mem_dropLast hs
    obtain ⟨hdot, hup⟩ := hpath.notDots s hmem
    exact ⟨hpath.nonempty s hs, hdot, hup, not_mem_of_mem_split hmem⟩
  have hstack : Url.Plainly (split '/' path.toList).dropLast.reverse := by
    intro s hs
    have hs := List.mem_reverse.mp hs
    exact ⟨hpath.chars s (List.mem_of_mem_dropLast hs), hpath.nonempty s hs, (hnames s hs).notUp⟩
  have hfront : ∀ s ∈ front, s ≠ [] := by
    have hnonempty := hreference.nonempty
    rwa [hsplit, List.dropLast_concat] at hnonempty
  have hchars := hreference.chars
  rw [hsplit] at hchars
  obtain ⟨hplainly, hsegments, hnonempty⟩ := Url.segmentsOnto_eq hfront hchars hstack
  refine ⟨_, resolve_of_relative (isAbsolute_rooted hpath) hrel, ?_⟩
  have habs : isAbsolute reference = false := by
    rw [← Bool.not_eq_true]
    intro habs
    rw [isRelative_of_isAbsolute habs] at hrel
    cases hrel
  unfold resolve
  rw [habs, htext, isAbsolute_of_generic hscheme, Url.parse_rooted hscheme hpath]
  simp only [Bool.false_eq_true, if_false, if_true,
    Url.isRootless_rooted (split_ne_nil '/' path.toList),
    Url.joinReference_rooted hscheme (split_ne_nil '/' path.toList) hreference hrel]
  rw [String.toList_append, show "/".toList ++ path.toList = '/' :: path.toList from rfl,
    Path.normalizeChars_directory_slash hnames (isRooted_of_isRelative hrel) hsplit, hsplit, hsegments]
  generalize (front ++ [last]).foldl (Path.enter true) (split '/' path.toList).dropLast.reverse
    = stack at hplainly hnonempty
  refine congrArg Except.ok (String.toList_inj.mp ?_)
  unfold Url.text
  rw [Url.chars_followed scheme.toList hplainly hnonempty]
  simp

/-- A reference that climbs above the root and ends in a directory. -/
theorem resolve_eq_rooted_climbing :
    Url.IsGeneric "classpath".toList ∧ Url.Names "lib/nested/a.js".toList ∧
      Url.Unreserved "../../../b/./c/..".toList ∧ isRelative "../../../b/./c/.." = true ∧
      ∃ target, resolve ("/" ++ "lib/nested/a.js") "../../../b/./c/.." = .ok target ∧
        resolve ("classpath" ++ ":/" ++ "lib/nested/a.js") "../../../b/./c/.."
          = .ok ("classpath" ++ ":" ++ target) := by
  have hscheme : Url.IsGeneric "classpath".toList := ⟨⟨⟨by decide, by decide⟩, by simp⟩, by decide⟩
  have hpath : Url.Names "lib/nested/a.js".toList := by decide
  have hreference : Url.Unreserved "../../../b/./c/..".toList := by decide
  have hrel : isRelative "../../../b/./c/.." = true := by decide
  exact ⟨hscheme, hpath, hreference, hrel, resolve_eq_rooted hscheme hpath hreference hrel⟩

example : resolve "classpath:/lib/nested/a.js" "../../../b/./c/.." = .ok "classpath:/b/" := by rfl

end Reference

end ModuleLoader
