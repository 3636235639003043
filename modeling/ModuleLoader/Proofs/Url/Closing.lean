/-
What URLs end in.

A URL that is read from a text has the ending of the text, whichever part comes last, or it ends
in a slash: a host of a special class that comes last is followed by the root (`parse_closes`).
A relative reference begins with a segment, so what it leads to has the ending of the reference
(`joinReference_suffix`).
-/
import ModuleLoader.Proofs.Url.Ending

namespace ModuleLoader

open Text

namespace Url

variable {ending : List Char}

/-- The text has the ending, or ends in a slash. -/
def Closes (ending text : List Char) : Prop := ending <:+ text ∨ ['/'] <:+ text

/-- The last part of a text has the ending; `main` is the part without query and fragment, or what
is left of it. -/
inductive Parts.Ends (ending : List Char) (parts : Parts) (main : List Char) : Prop
  | fragment (text : List Char) (hfragment : parts.fragment = some text) (hsuffix : ending <:+ text)
  | query (text : List Char) (hfragment : parts.fragment = none) (hquery : parts.query = some text)
      (hsuffix : ending <:+ text)
  | main (hfragment : parts.fragment = none) (hquery : parts.query = none)
      (hsuffix : ending <:+ main)

theorem Parts.Ends.mono {parts : Parts} {main rest : List Char} (hends : parts.Ends ending main)
    (h : ending <:+ main → ending <:+ rest) : parts.Ends ending rest := by
  cases hends with
  | fragment text hfragment hsuffix => exact .fragment text hfragment hsuffix
  | query text hfragment hquery hsuffix => exact .query text hfragment hquery hsuffix
  | main hfragment hquery hsuffix => exact .main hfragment hquery (h hsuffix)

theorem Parts.ends_of (h : Ending ending) {text : List Char} (hsuffix : ending <:+ text) :
    (Parts.of text).Ends ending (Parts.of text).main := by
  have hcut : ∀ {sep : Char} {cs before after : List Char}, isUnreserved sep = false →
      cut? sep cs = some (before, after) → ending <:+ cs → ending <:+ after := by
    intro sep cs before after hsep hcs hcsuffix
    obtain ⟨rfl, -⟩ := cut?_eq_some_iff.mp hcs
    exact suffix_behind (h.not_mem hsep) hcsuffix
  rcases hfragment : cut? '#' text with _ | ⟨before, after⟩
  · rcases hquery : cut? '?' text with _ | ⟨front, query⟩
    · refine .main ?_ ?_ ?_ <;> simp [Parts.of, hfragment, hquery, hsuffix]
    · refine .query query ?_ ?_ (hcut (by decide) hquery hsuffix) <;>
        simp [Parts.of, hfragment, hquery]
  · refine .fragment after ?_ (hcut (by decide) hfragment hsuffix)
    rcases hquery : cut? '?' before with _ | ⟨front, query⟩ <;>
      simp [Parts.of, hfragment, hquery]

/-! ### How a URL is written at its end -/

section Written

variable {url : Url} {parts : Parts} {main : List Char}

theorem path_suffix_chars (hquery : url.query = none) (hfragment : url.fragment = none) :
    url.path.text <:+ url.chars := by
  unfold chars
  simp only [hquery, hfragment, List.append_nil]
  exact List.suffix_append _ _

/-- A host without a port stands before the path. -/
theorem host_suffix_chars {authority : Authority} (hauthority : url.authority = some authority)
    (hport : authority.port = none) (hpath : url.path.text = []) (hquery : url.query = none)
    (hfragment : url.fragment = none) : authority.host.text <:+ url.chars := by
  have htext : authority.host.text <:+ authority.text := by
    unfold Authority.text
    simp only [hport, List.append_nil]
    exact List.suffix_append _ _
  refine (htext.trans (List.suffix_cons ':' _)).trans ?_
  unfold chars
  simp only [hauthority, hpath, hquery, hfragment, List.append_nil]
  exact List.suffix_append _ _

/-- A query or a fragment is written with the ending that it is read with. -/
theorem suffix_chars_or (h : Ending ending) (hends : parts.Ends ending main) {k : SchemeClass}
    (hquery : url.query = parts.encodedQuery k) (hfragment : url.fragment = parts.encodedFragment) :
    ending <:+ url.chars ∨ (url.query = none ∧ url.fragment = none ∧ ending <:+ main) := by
  cases hends with
  | fragment text heq hsuffix =>
      have hencode := h.encode hsuffix fun c hc => (not_encoded_of_isUnreserved hc).2.2.1
      unfold Parts.encodedFragment at hfragment
      rw [heq, Option.map_some] at hfragment
      refine Or.inl ((hencode.trans (List.suffix_cons '#' _)).trans ?_)
      unfold chars
      simp only [hfragment]
      exact List.suffix_append _ _
  | query text hnone heq hsuffix =>
      have hset : ∀ c, isUnreserved c = true →
          (if k.isSpecial then Percent.specialQuery else Percent.query) c = false := by
        intro c hc
        obtain ⟨-, -, -, hplain, hspecial⟩ := not_encoded_of_isUnreserved hc
        split
        · exact hspecial
        · exact hplain
      unfold Parts.encodedQuery at hquery
      unfold Parts.encodedFragment at hfragment
      rw [heq, Option.map_some] at hquery
      rw [hnone, Option.map_none] at hfragment
      refine Or.inl (((h.encode hsuffix hset).trans (List.suffix_cons '?' _)).trans ?_)
      unfold chars
      simp only [hquery, hfragment, List.append_nil]
      exact List.suffix_append _ _
  | main hnone heq hsuffix =>
      unfold Parts.encodedQuery at hquery
      unfold Parts.encodedFragment at hfragment
      rw [heq, Option.map_none] at hquery
      rw [hnone, Option.map_none] at hfragment
      exact Or.inr ⟨hquery, hfragment, hsuffix⟩

/-- So is a URL whose path has the ending that it is read with. -/
theorem suffix_chars (h : Ending ending) (hends : parts.Ends ending main) {k : SchemeClass}
    (hquery : url.query = parts.encodedQuery k) (hfragment : url.fragment = parts.encodedFragment)
    (hpath : ending <:+ main → ending <:+ url.path.text) : ending <:+ url.chars := by
  rcases suffix_chars_or h hends hquery hfragment with hsuffix | ⟨hquery, hfragment, hmain⟩
  · exact hsuffix
  · exact (hpath hmain).trans (path_suffix_chars hquery hfragment)

end Written

/-! ### Authorities -/

theorem cutHost_go_append (text : List Char) : ∀ inside,
    (cutHost.go inside text).1 ++ (cutHost.go inside text).2 = text ∧
      ((cutHost.go inside text).2 = [] ∨ ∃ rest, (cutHost.go inside text).2 = ':' :: rest) := by
  induction text with
  | nil => intro inside; exact ⟨rfl, Or.inl rfl⟩
  | cons c rest ih =>
      intro inside
      unfold cutHost.go
      by_cases hcolon : c = ':' ∧ !inside
      · rw [if_pos hcolon]
        exact ⟨rfl, Or.inr ⟨rest, by rw [hcolon.1]⟩⟩
      · rw [if_neg hcolon]
        obtain ⟨happend, hrest⟩ := ih (if c = '[' then true else if c = ']' then false else inside)
        exact ⟨congrArg (c :: ·) happend, hrest⟩

/-- A host is followed by nothing or by the colon of a port. -/
theorem cutHost_cases (text : List Char) :
    cutHost text = (text, []) ∨ ∃ host port, cutHost text = (host, ':' :: port) ∧
      text = host ++ ':' :: port := by
  obtain ⟨happend, hrest⟩ := cutHost_go_append text false
  unfold cutHost
  rcases hgo : cutHost.go false text with ⟨host, rest⟩
  rw [hgo] at happend hrest
  rcases hrest with hnil | ⟨port, hport⟩
  · obtain rfl : rest = [] := hnil
    rw [List.append_nil] at happend
    exact Or.inl (by rw [← happend])
  · obtain rfl : rest = ':' :: port := hport
    exact Or.inr ⟨host, port, rfl, happend.symm⟩

theorem credentials_cases {text user password rest : List Char} {more : Bool}
    (h : credentials text more = .ok (user, password, rest)) :
    rest = text ∨ ∃ info, text = info ++ '@' :: rest := by
  unfold credentials at h
  rcases hcut : cutLast? '@' text with _ | ⟨info, after⟩
  · simp only [hcut] at h
    cases h
    exact Or.inl rfl
  · refine Or.inr ⟨info, ?_⟩
    have hrest : after = rest := by
      rcases info with _ | ⟨c, info⟩
      · simp only [hcut] at h
        split at h
        · cases h
        · cases h
          rfl
      · simp only [hcut] at h
        split at h
        · cases h
          rfl
        · cases h
          rfl
    rw [← hrest]
    exact (cutLast?_eq_some_iff.mp hcut).1

/-- Behind a port there is nothing or a backslash. -/
theorem port_cases {scheme text rest : List Char} {number : Option Nat}
    (h : port scheme text = .ok (number, rest)) :
    rest = text.dropWhile Char.isDigit ∧ (rest = [] ∨ ∃ path, rest = '\\' :: path) := by
  unfold port at h
  rcases hnumber : numberOf 10 (text.takeWhile Char.isDigit) with _ | n
  · simp only [hnumber] at h
    cases h
  · simp only [hnumber] at h
    by_cases hlarge : n > 65535
    · rw [if_pos hlarge] at h
      cases h
    · rw [if_neg hlarge] at h
      split at h
      · next hend =>
        obtain ⟨-, rfl⟩ := Prod.mk.inj (Except.ok.inj h)
        refine ⟨rfl, ?_⟩
        rcases hdrop : text.dropWhile Char.isDigit with _ | ⟨c, path⟩
        · exact Or.inl rfl
        · rw [hdrop] at hend
          simp only [List.isEmpty_cons, Bool.false_or, List.head?_cons, Option.some.injEq,
            decide_eq_true_eq] at hend
          exact Or.inr ⟨path, by rw [hend]⟩
      · cases h

/-- The digits of a port are not all of an ending. -/
theorem suffix_behind_port (h : Ending ending) {scheme text rest : List Char} {number : Option Nat}
    (hport : port scheme text = .ok (number, rest)) (hsuffix : ending <:+ text) : ending <:+ rest := by
  obtain ⟨hrest, hcases⟩ := port_cases hport
  have htext : text = text.takeWhile Char.isDigit ++ rest := by
    rw [hrest, List.takeWhile_append_dropWhile]
  rcases hcases with rfl | ⟨path, rfl⟩
  · obtain ⟨c, hc, hdigit⟩ := h.worded
    rw [List.append_nil] at htext
    have hdigits := List.mem_takeWhile_imp (htext ▸ hsuffix.subset hc)
    rw [hdigit] at hdigits
    cases hdigits
  · rw [htext] at hsuffix
    exact (suffix_behind (h.not_mem (by decide)) hsuffix).trans (List.suffix_cons _ _)

/-- A host without rules of its own is written with the ending that it is read with. -/
theorem suffix_host (h : Ending ending) {text : List Char} {host : Host}
    (hhost : Host.parseGeneric text = .ok host) (hsuffix : ending <:+ text) :
    ending <:+ host.text := by
  unfold Host.parseGeneric bracketed? at hhost
  split at hhost
  · next result hbracket =>
    -- An address ends in a bracket.
    split at hbracket
    · next rest =>
      obtain rfl := Option.some.inj hbracket
      by_cases hlast : rest.getLast? = some ']'
      · obtain ⟨front, rfl⟩ := List.getLast?_eq_some_iff.mp hlast
        rw [← List.cons_append] at hsuffix
        exact absurd (h.last hsuffix) (by decide)
      · rw [if_neg hlast] at hhost
        cases hhost
    · cases hbracket
  · split at hhost
    · cases hhost
    · obtain rfl := Except.ok.inj hhost
      exact h.encode hsuffix fun c hc => (not_encoded_of_isUnreserved hc).2.1

/-- Behind an authority the special classes have a path at any rate. -/
theorem text_pathAfterAuthority_nil (k : SchemeClass) :
    (pathAfterAuthority k []).text = if k.isSpecial then ['/'] else [] := by
  cases k <;> rfl

/-- A URL that ends in its authority is written with the ending of the host, or with a slash. -/
theorem closes_of_host (h : Ending ending) {url : Url} {authority : Authority} {text : List Char}
    (hhost : hostOf url.scheme text = .ok authority.host) (hsuffix : ending <:+ text)
    (hauthority : url.authority = some authority) (hport : authority.port = none)
    (hpath : url.path = pathAfterAuthority (SchemeClass.of url.scheme) [])
    (hquery : url.query = none) (hfragment : url.fragment = none) : Closes ending url.chars := by
  have hwritten := congrArg Path.text hpath
  rw [text_pathAfterAuthority_nil] at hwritten
  by_cases hspecial : (SchemeClass.of url.scheme).isSpecial = true
  · rw [if_pos hspecial] at hwritten
    exact Or.inr (hwritten ▸ path_suffix_chars hquery hfragment)
  · rw [if_neg hspecial] at hwritten
    unfold hostOf at hhost
    rw [if_neg hspecial] at hhost
    exact Or.inl ((suffix_host h hhost hsuffix).trans
      (host_suffix_chars hauthority hport hwritten hquery hfragment))

/-- **Behind two slashes a text leads to a URL with its ending**, or with a slash for its path. -/
theorem afterSlashes_closes (h : Ending ending) {scheme text : List Char} {parts : Parts} {url : Url}
    (hends : parts.Ends ending text) (hurl : afterSlashes scheme parts text = .ok url) :
    Closes ending url.chars := by
  obtain ⟨authority, more, hostAndPort, rest, hcredentials, hhost, hport, heq⟩ :=
    afterSlashes_eq_ok hurl
  obtain rfl : url.scheme = scheme := by rw [heq]
  have hquery : url.query = parts.encodedQuery (SchemeClass.of url.scheme) := congrArg Url.query heq
  have hfragment : url.fragment = parts.encodedFragment := congrArg Url.fragment heq
  have hpath := congrArg Url.path heq
  rcases suffix_chars_or h hends hquery hfragment with hsuffix | ⟨hquery, hfragment, hmain⟩
  · exact Or.inl hsuffix
  -- What is left behind the port and the first separator make the path.
  have hbehind : ∀ path, url.path = pathAfterAuthority (SchemeClass.of url.scheme) path →
      ending <:+ path → Closes ending url.chars := by
    intro path hurlPath hsuffix
    have hwritten := suffix_pathAfterAuthority h hsuffix (SchemeClass.of url.scheme)
    rw [← hurlPath] at hwritten
    exact Or.inl (hwritten.trans (path_suffix_chars hquery hfragment))
  rcases suffix_of_separator h hmain (SchemeClass.of url.scheme) with hnil | hseparator
  · rw [hnil, List.append_nil] at hpath
    have htext := List.takeWhile_append_dropWhile
      (p := fun c => !(SchemeClass.of url.scheme).separates c) (l := text)
    rw [hnil, List.append_nil] at htext
    rw [htext] at hcredentials
    have hhostAndPort : ending <:+ hostAndPort := by
      rcases credentials_cases hcredentials with rfl | ⟨info, rfl⟩
      · exact hmain
      · exact suffix_behind (h.not_mem (by decide)) hmain
    rcases cutHost_cases hostAndPort with hcut | ⟨hostText, portText, hcut, rfl⟩
    · rw [hcut] at hhost hport
      obtain ⟨hnone, rfl⟩ := Prod.mk.inj (Except.ok.inj hport)
      exact closes_of_host h hhost hhostAndPort (congrArg Url.authority heq) hnone.symm hpath
        hquery hfragment
    · rw [hcut] at hport
      exact hbehind rest hpath
        (suffix_behind_port h hport (suffix_behind (h.not_mem (by decide)) hhostAndPort))
  · exact hbehind _ hpath (hseparator.trans (List.suffix_append rest _))

/-! ### URLs that are read by themselves -/

/-- A scheme ends in a colon. -/
theorem scheme?_cut {main scheme rest : List Char} (h : scheme? main = some (scheme, rest)) :
    ∃ name, main = name ++ ':' :: rest := by
  unfold scheme? at h
  rcases hcut : cut? ':' main with _ | ⟨_ | ⟨c, name⟩, after⟩
  · simp only [hcut] at h
    cases h
  · simp only [hcut] at h
    cases h
  · simp only [hcut] at h
    split at h
    · obtain ⟨-, rfl⟩ := Prod.mk.inj (Option.some.inj h)
      exact ⟨_, (cut?_eq_some_iff.mp hcut).1⟩
    · cases h

section Read

variable (h : Ending ending) {parts : Parts} {url : Url}

include h

theorem fileWithHost_closes {text : List Char} (hends : parts.Ends ending text)
    (hurl : fileWithHost parts text = .ok url) : Closes ending url.chars := by
  have hcases : ∃ host path, url = fileUrl parts host path ∧ (path = pathOnto .file [] text ∨
      path = pathOnto .file []
        (dropSeparator .file (text.dropWhile fun c => !SchemeClass.file.separates c))) := by
    simp only [fileWithHost, bind, Except.bind, pure, Except.pure] at hurl
    repeat' split at hurl
    all_goals cases hurl
    all_goals exact ⟨_, _, rfl, by first | exact Or.inl rfl | exact Or.inr rfl⟩
  obtain ⟨host, path, heq, hpath⟩ := hcases
  rcases suffix_chars_or h hends (congrArg Url.query heq) (congrArg Url.fragment heq)
    with hsuffix | ⟨hquery, hfragment, hmain⟩
  · exact Or.inl hsuffix
  obtain rfl : url.path = path := congrArg Url.path heq
  have hwritten := path_suffix_chars hquery hfragment
  rcases hpath with hpath | hpath
  · rw [hpath] at hwritten
    exact Or.inl ((suffix_pathOnto h hmain _ _).trans hwritten)
  · rw [hpath] at hwritten
    rcases suffix_of_separator h hmain .file with hnil | hseparator
    · rw [hnil] at hwritten
      exact Or.inr hwritten
    · exact Or.inl ((suffix_pathOnto h (suffix_dropSeparator h hseparator .file) _ _).trans hwritten)

theorem parseFile_closes {main : List Char} (hends : parts.Ends ending main)
    (hurl : parseFile none { parts with main := main } = .ok url) : Closes ending url.chars := by
  have hrooted : ∀ {text : List Char} {host : Host}, parts.Ends ending text →
      Closes ending (fileUrl { parts with main := main } host (pathOnto .file [] text)).chars := by
    intro text host htext
    exact Or.inl (suffix_chars h htext rfl rfl fun hsuffix => suffix_pathOnto h hsuffix _ _)
  have hreserved : ∀ {c : Char} {rest : List Char}, SchemeClass.file.separates c = true →
      parts.Ends ending (c :: rest) → parts.Ends ending rest := by
    intro c rest hc hmain
    exact hmain.mono fun hsuffix => h.behind hsuffix (not_isUnreserved_of_separates hc) rfl
  unfold parseFile at hurl
  rcases main with _ | ⟨first, rest⟩
  · obtain rfl := Except.ok.inj hurl
    refine Or.inl (suffix_chars h hends rfl rfl fun hsuffix => ?_)
    exact absurd (List.suffix_nil.mp hsuffix) h.nonempty
  · simp only at hurl
    by_cases hfirst : SchemeClass.file.separates first = true
    · rw [if_pos hfirst] at hurl
      have hrest := hreserved hfirst hends
      rcases rest with _ | ⟨second, rest⟩
      · obtain rfl := Except.ok.inj hurl
        exact hrooted hrest
      · simp only at hurl
        by_cases hsecond : SchemeClass.file.separates second = true
        · rw [if_pos hsecond] at hurl
          exact fileWithHost_closes h (hreserved hsecond hrest) hurl
        · rw [if_neg hsecond] at hurl
          obtain rfl := Except.ok.inj hurl
          exact hrooted hrest
    · rw [if_neg hfirst] at hurl
      obtain rfl := Except.ok.inj hurl
      exact hrooted hends

theorem parseGeneric_closes {scheme main : List Char} (hends : parts.Ends ending main)
    (hurl : parseGeneric scheme parts main = .ok url) : Closes ending url.chars := by
  have hslash : ∀ {rest : List Char}, parts.Ends ending ('/' :: rest) → parts.Ends ending rest :=
    fun hmain => hmain.mono fun hsuffix => h.behind hsuffix (by decide) rfl
  unfold parseGeneric at hurl
  split at hurl
  · exact afterSlashes_closes h (hslash (hslash hends)) hurl
  · obtain rfl := Except.ok.inj hurl
    exact Or.inl (suffix_chars h (hslash hends) rfl rfl fun hsuffix => suffix_pathOnto h hsuffix _ _)
  · obtain rfl := Except.ok.inj hurl
    refine Or.inl (suffix_chars h hends rfl rfl fun hsuffix => ?_)
    exact h.encode hsuffix fun c hc => (not_encoded_of_isUnreserved hc).2.1

theorem parseAbsolute_closes {scheme main : List Char} (hends : parts.Ends ending main)
    (hurl : parseAbsolute none scheme parts main = .ok url) : Closes ending url.chars := by
  unfold parseAbsolute at hurl
  split at hurl
  · exact parseFile_closes h hends hurl
  · refine afterSlashes_closes h (hends.mono fun hsuffix => h.dropWhile hsuffix ?_) hurl
    intro c hc
    simp [ne_of_isUnreserved hc (d := '/') (by decide), ne_of_isUnreserved hc (d := '\\') (by decide)]
  · exact parseGeneric_closes h hends hurl

/-- **A URL has the ending of the text that it is read from, or ends in a slash.** -/
theorem parse_closes {text : String} (hsuffix : ending <:+ text.toList) (hurl : parse text = .ok url) :
    Closes ending url.chars := by
  have hends := Parts.ends_of h (h.clean hsuffix)
  unfold parse parseChars at hurl
  simp only at hurl
  rcases hscheme : scheme? (Parts.of (clean text.toList)).main with _ | ⟨scheme, main⟩
  · rw [hscheme] at hurl
    cases hurl
  · rw [hscheme] at hurl
    obtain ⟨name, hmain⟩ := scheme?_cut hscheme
    refine parseAbsolute_closes h (hends.mono fun hsuffix => ?_) hurl
    rw [hmain] at hsuffix
    exact suffix_behind (h.not_mem (by decide)) hsuffix

end Read

/-! ### References -/

theorem clean_dot (text : List Char) : ∃ rest, clean ('.' :: text) = '.' :: rest := by
  have hfront : ('.' :: text).dropWhile (· ≤ ' ') = '.' :: text :=
    List.dropWhile_cons_of_neg (by decide)
  obtain ⟨rest, hrest⟩ : ∃ rest,
      (('.' :: text).reverse.dropWhile (· ≤ ' ')).reverse = '.' :: rest := by
    rw [List.reverse_cons, List.dropWhile_append]
    split
    · exact ⟨[], rfl⟩
    · exact ⟨_, by rw [List.reverse_concat]⟩
  refine ⟨rest.filter fun c => !isIgnored c, ?_⟩
  unfold clean
  simp only [hfront, hrest]
  rfl

/-- A text that begins with a point names no scheme. -/
theorem scheme?_dot (rest : List Char) : scheme? ('.' :: rest) = none := by
  unfold scheme?
  rcases hcut : cut? ':' ('.' :: rest) with _ | ⟨_ | ⟨c, name⟩, after⟩
  · rfl
  · rfl
  · obtain ⟨heq, -⟩ := cut?_eq_some_iff.mp hcut
    obtain rfl := (List.cons.inj heq).1
    rfl

theorem parts_dot (rest : List Char) : ∃ more, (Parts.of ('.' :: rest)).main = '.' :: more := by
  have hcut : ∀ {sep : Char} {cs before after : List Char}, sep ≠ '.' →
      cut? sep ('.' :: cs) = some (before, after) → ∃ more, before = '.' :: more := by
    intro sep cs before after hsep hcs
    obtain ⟨heq, -⟩ := cut?_eq_some_iff.mp hcs
    rcases before with _ | ⟨c, more⟩
    · exact absurd (List.cons.inj heq).1.symm hsep
    · exact ⟨more, by rw [(List.cons.inj heq).1]⟩
  unfold Parts.of
  rcases hfragment : cut? '#' ('.' :: rest) with _ | ⟨before, after⟩
  · rcases hquery : cut? '?' ('.' :: rest) with _ | ⟨front, query⟩
    · exact ⟨rest, by simp only [hquery]⟩
    · obtain ⟨more, rfl⟩ := hcut (by decide) hquery
      exact ⟨more, by simp only [hquery]⟩
  · obtain ⟨more, rfl⟩ := hcut (by decide) hfragment
    rcases hquery : cut? '?' ('.' :: more) with _ | ⟨front, query⟩
    · exact ⟨more, by simp only [hquery]⟩
    · obtain ⟨more, rfl⟩ := hcut (by decide) hquery
      exact ⟨more, by simp only [hquery]⟩

section Join

variable (h : Ending ending) {parts : Parts} {base url : Url}

include h

theorem parseFile_suffix {rest : List Char} (hmain : parts.main = '.' :: rest)
    (hends : parts.Ends ending parts.main) (hurl : parseFile (some base) parts = .ok url) :
    ending <:+ url.chars := by
  unfold parseFile at hurl
  simp only [hmain] at hurl
  rw [if_neg (by decide)] at hurl
  split at hurl
  · obtain rfl := Except.ok.inj hurl
    exact suffix_chars h hends rfl rfl fun hsuffix => suffix_pathOnto h (hmain ▸ hsuffix) _ _
  · obtain rfl := Except.ok.inj hurl
    exact suffix_chars h hends rfl rfl fun hsuffix => suffix_pathRelative h (hmain ▸ hsuffix) _ _

theorem parseRelative_suffix {rest : List Char} (hmain : parts.main = '.' :: rest)
    (hends : parts.Ends ending parts.main) (hurl : parseRelative base parts = .ok url) :
    ending <:+ url.chars := by
  unfold parseRelative at hurl
  simp only [hmain] at hurl
  rw [if_neg (by decide)] at hurl
  obtain rfl := Except.ok.inj hurl
  exact suffix_chars h hends rfl rfl fun hsuffix => suffix_pathRelative h (hmain ▸ hsuffix) _ _

/-- **A relative reference leads from a URL to one with the ending of the reference.** -/
theorem joinReference_suffix {reference : String} (hrel : Reference.isRelative reference = true)
    (hsuffix : ending <:+ reference.toList) (hurl : base.joinReference reference = .ok url) :
    ending <:+ url.chars := by
  obtain ⟨text, htext⟩ : ∃ text, reference.toList = '.' :: text := by
    obtain ⟨dots, rfl | rfl, rest, heq⟩ := Reference.isRelative_iff.mp hrel
    · exact ⟨_, heq⟩
    · exact ⟨_, heq⟩
  have hends := Parts.ends_of h (h.clean hsuffix)
  obtain ⟨cleaned, hcleaned⟩ := clean_dot text
  obtain ⟨rest, hrest⟩ := parts_dot cleaned
  rw [← hcleaned, ← htext] at hrest
  have hscheme := scheme?_dot rest
  rw [← hrest] at hscheme
  unfold joinReference parseChars at hurl
  simp only [hscheme] at hurl
  rw [if_neg (by simp [hrest])] at hurl
  split at hurl
  · cases hurl
  · split at hurl
    · exact parseFile_suffix h hrest hends hurl
    · exact parseRelative_suffix h hrest hends hurl

end Join

end Url

namespace Reference

/-- **What a relative reference leads to has the ending of the reference**, from a URL as from a
logical path. -/
theorem suffix_resolve {ending : List Char} (h : Url.Ending ending) {base reference target : String}
    (hrel : isRelative reference = true) (hresolve : resolve base reference = .ok target)
    (hsuffix : ending <:+ reference.toList) : ending <:+ target.toList := by
  by_cases hbase : isAbsolute base = true
  · have hreference : ¬ isAbsolute reference = true := by
      intro habs
      rw [isRelative_of_isAbsolute habs] at hrel
      cases hrel
    unfold resolve at hresolve
    rw [if_neg hreference, if_pos hbase] at hresolve
    rcases hurl : Url.parse base with fault | url
    · rw [hurl] at hresolve
      cases hresolve
    · simp only [hurl] at hresolve
      split at hresolve
      · obtain rfl := Except.ok.inj hresolve
        exact hsuffix
      · rcases hjoin : url.joinReference reference with fault | joined
        · rw [hjoin] at hresolve
          cases hresolve
        · rw [hjoin] at hresolve
          obtain rfl := Except.ok.inj hresolve
          rw [Url.text, String.toList_ofList]
          exact Url.joinReference_suffix h hrel hsuffix hjoin
  · exact (suffix_resolve_iff (Bool.eq_false_iff.mpr hbase) hrel hresolve h.path).mpr hsuffix

end Reference

end ModuleLoader
