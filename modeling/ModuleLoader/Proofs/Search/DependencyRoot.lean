/-
Dependency directories in a name.

The marker of dependency directories is the name of a directory and a slash.  It stands in a name
wherever one of the directories of the name is called so (`hasRoot_iff`), and not where the name of
a directory merely ends in it (`occurs_iff`).

A name is cut behind the last dependency directory.  The text is searched from its end, for
occurrences of the marker that do not overlap, and those that do not begin a segment are passed over.
Nothing is lost by that: two occurrences of the name of one directory and a slash never overlap
(`occurrences_apart`), so every dependency directory is looked at in its turn, and the one that is
found leaves the least behind it (`afterMarker_shortest`).  What stands behind it is looked up among
the packaged resources before all else but the archive, and a name without dependency directories is
looked up as it stands (`find_remapped`).
-/
import ModuleLoader.Proofs.Search.Candidates

namespace ModuleLoader.Search

open Text

/-! ### Where the marker stands -/

/-- A segment begins behind the text. -/
def BeginsSegment (front : List Char) : Prop := front = [] ∨ ∃ rest, front = rest ++ ['/']

/-- The marker begins a segment of the text. -/
def HasRoot (marker cs : List Char) : Prop :=
  ∃ front back, cs = front ++ marker ++ back ∧ BeginsSegment front

/-- The marker is the name of one directory and a slash. -/
def NamesDirectory (marker : String) : Prop :=
  ∃ name : List Char, name ≠ [] ∧ '/' ∉ name ∧ marker.toList = name ++ ['/']

/-- The directories of a name. -/
def directoriesOf (cs : List Char) : List (List Char) := (split '/' cs).dropLast

theorem BeginsSegment.of_append {front gap : List Char} (h : BeginsSegment (front ++ gap)) :
    BeginsSegment gap := by
  rcases List.eq_nil_or_concat' gap with rfl | ⟨rest, c, rfl⟩
  · exact Or.inl rfl
  · rcases h with hnil | ⟨more, hmore⟩
    · simp at hnil
    · rw [← List.append_assoc] at hmore
      obtain ⟨-, hc⟩ := List.append_inj' hmore rfl
      rw [hc]
      exact Or.inr ⟨rest, rfl⟩

section Directories

variable {name cs : List Char}

/-- **The marker stands wherever a directory is called so.** -/
theorem hasRoot_iff (hflat : '/' ∉ name) :
    HasRoot (name ++ ['/']) cs ↔ name ∈ directoriesOf cs := by
  unfold directoriesOf
  constructor
  · rintro ⟨front, back, rfl, rfl | ⟨rest, rfl⟩⟩
    · have hassoc : [] ++ (name ++ ['/']) ++ back = name ++ '/' :: back := by simp
      rw [hassoc, split_append_sep, split_of_not_mem hflat,
        List.dropLast_append_of_ne_nil (split_ne_nil '/' back)]
      exact List.mem_append_left _ List.mem_cons_self
    · have hassoc : rest ++ ['/'] ++ (name ++ ['/']) ++ back = rest ++ '/' :: (name ++ '/' :: back) := by
        simp
      rw [hassoc, split_append_sep, split_append_sep, split_of_not_mem hflat, ← List.append_assoc,
        List.dropLast_append_of_ne_nil (split_ne_nil '/' back)]
      exact List.mem_append_left _ (List.mem_append_right _ List.mem_cons_self)
  · intro hmem
    obtain ⟨before, after, hbefore⟩ := List.append_of_mem hmem
    obtain ⟨rest, hrest, hsplit⟩ : ∃ rest, rest ≠ [] ∧ split '/' cs = before ++ name :: rest := by
      have hne := split_ne_nil '/' cs
      refine ⟨after ++ [(split '/' cs).getLast hne], by simp, ?_⟩
      conv_lhs => rw [← List.dropLast_append_getLast hne, hbefore]
      simp
    have hcs : cs = join '/' (before ++ name :: rest) := by
      rw [← hsplit, join_split]
    have hname : join '/' (name :: rest) = name ++ '/' :: join '/' rest :=
      join_append '/' (List.cons_ne_nil name []) hrest
    rcases before with _ | ⟨first, before⟩
    · refine ⟨[], join '/' rest, ?_, Or.inl rfl⟩
      rw [hcs, List.nil_append, hname]
      simp
    · refine ⟨join '/' (first :: before) ++ ['/'], join '/' rest, ?_, Or.inr ⟨_, rfl⟩⟩
      rw [hcs, join_append '/' (List.cons_ne_nil first before) (List.cons_ne_nil name rest), hname]
      simp

/-- **The text of the marker stands wherever the name of a directory ends in it.** -/
theorem occurs_iff (hflat : '/' ∉ name) :
    name ++ ['/'] <:+: cs ↔ ∃ directory ∈ directoriesOf cs, name <:+ directory := by
  constructor
  · rintro ⟨front, back, rfl⟩
    obtain ⟨before, last, -, hsplit⟩ := split_append '/' front
    have hassoc : front ++ (name ++ ['/']) ++ back = (front ++ name) ++ '/' :: back := by simp
    refine ⟨last ++ name, ?_, List.suffix_append last name⟩
    unfold directoriesOf
    rw [hassoc, split_append_sep, hsplit name hflat,
      List.dropLast_append_of_ne_nil (split_ne_nil '/' back)]
    simp
  · rintro ⟨directory, hmem, rest, rfl⟩
    have hdirectory : '/' ∉ rest ++ name :=
      not_mem_of_mem_split (List.dropLast_subset _ hmem)
    obtain ⟨front, back, rfl, -⟩ := (hasRoot_iff hdirectory).mpr hmem
    exact ⟨front ++ rest, back, by simp⟩

end Directories

/-! ### The last dependency directory -/

section Last

variable {name : List Char} (hflat : '/' ∉ name)

include hflat

/-- Two occurrences of the name of a directory and a slash are the same, or the one with less behind
it begins behind the other. -/
theorem occurrences_apart {front back later after : List Char}
    (h : front ++ (name ++ ['/']) ++ back = later ++ (name ++ ['/']) ++ after)
    (hle : after.length ≤ back.length) :
    (later = front ∧ after = back) ∨
      ∃ gap, later = front ++ (name ++ ['/']) ++ gap ∧ back = gap ++ (name ++ ['/']) ++ after := by
  obtain ⟨tail, rfl⟩ : after <:+ back := List.suffix_of_suffix_length_le ⟨_, h.symm⟩ ⟨_, rfl⟩ hle
  have hsame : front ++ (name ++ ['/']) ++ tail = later ++ (name ++ ['/']) := by
    rw [← List.append_assoc _ tail after] at h
    exact List.append_cancel_right h
  rcases List.eq_nil_or_concat' tail with rfl | ⟨rest, c, rfl⟩
  · rw [List.append_nil] at hsame
    exact Or.inl ⟨(List.append_cancel_right hsame).symm, rfl⟩
  · have hends : front ++ (name ++ ['/']) ++ rest ++ [c] = later ++ name ++ ['/'] := by
      simpa using hsame
    obtain ⟨hbody, hc⟩ := List.append_inj' hends rfl
    -- The slash of the earlier occurrence is none of the later one, so it stands before that.
    have hslash : (front ++ name) ++ '/' :: rest = later ++ name := by
      rw [← hbody]
      simp
    obtain ⟨gap, rfl⟩ := stem_of_separator hflat hslash
    have hrest : rest = gap ++ name := by
      have hcancel : front ++ name ++ ['/'] ++ rest = front ++ name ++ ['/'] ++ (gap ++ name) := by
        simpa using hslash
      exact List.append_cancel_left hcancel
    refine Or.inr ⟨gap, by simp, ?_⟩
    rw [hrest, hc]
    simp

/-- No dependency directory of the text has less behind it than `after`. -/
def Shortest (marker cs after : List Char) : Prop :=
  ∀ front back, cs = front ++ marker ++ back → BeginsSegment front → after.length ≤ back.length

omit hflat in
/-- A character that the marker does not end in is passed over. -/
theorem Shortest.pass {marker cs before after : List Char} {c : Char} (h : Shortest marker cs after)
    (hcs : cs = before ++ [c] ++ after) (hother : ¬ marker <:+ before ++ [c]) :
    Shortest marker cs (c :: after) := by
  intro front back heq hfront
  have hle := h front back heq hfront
  by_contra hlt
  rw [List.length_cons] at hlt
  have hlength : after.length = back.length := by omega
  obtain ⟨hmarker, -⟩ := List.append_inj' (hcs.symm.trans heq) hlength
  exact hother ⟨front, hmarker.symm⟩

/-- A marker that begins no segment is passed over as a whole. -/
theorem Shortest.skip {cs before after : List Char} (h : Shortest (name ++ ['/']) cs after)
    (hcs : cs = before ++ (name ++ ['/']) ++ after) (hinside : ¬ BeginsSegment before) :
    Shortest (name ++ ['/']) cs (name ++ ['/'] ++ after) := by
  intro front back heq hfront
  obtain ⟨rfl, -⟩ | ⟨gap, -, rfl⟩ :=
    occurrences_apart hflat (heq.symm.trans hcs) (h front back heq hfront)
  · exact absurd hfront hinside
  · simp

/-- **The dependency directory that is found is the last one**: none has less behind it.  If none
is found there is none. -/
theorem afterMarker_shortest {before after cs : List Char} (hcs : cs = before.reverse ++ after)
    (h : Shortest (name ++ ['/']) cs after) :
    (∃ inner, afterMarker (name ++ ['/']) before after = some inner ∧
        Shortest (name ++ ['/']) cs inner) ∨
      afterMarker (name ++ ['/']) before after = none ∧ ¬ HasRoot (name ++ ['/']) cs := by
  generalize hmarker : name ++ ['/'] = marker at h ⊢
  fun_induction afterMarker marker before after with
  | case1 before after rest hdrop hboundary => exact Or.inl ⟨after, rfl, h⟩
  | case2 after rest hboundary hnil hdrop => simp [hnil] at hmarker
  | case3 after rest hboundary hnil c before hdrop ih => simp [hnil] at hmarker
  | case4 before after rest hdrop hboundary hne ih =>
      have hbefore : before = marker.reverse ++ rest := dropStart?_eq_some_iff.mp hdrop
      have hinside : ¬ BeginsSegment rest.reverse := by
        rintro (hnil | ⟨more, hmore⟩)
        · exact hboundary (Or.inl (List.reverse_eq_nil_iff.mp hnil))
        · refine hboundary (Or.inr ?_)
          rw [← List.reverse_reverse rest, hmore]
          simp
      have hcut : cs = rest.reverse ++ marker ++ after := by
        rw [hcs, hbefore]
        simp
      refine ih (by rw [hcut]; simp) ?_
      rw [← hmarker] at h hcut ⊢
      exact h.skip hflat hcut hinside
  | case5 after hdrop =>
      refine Or.inr ⟨rfl, ?_⟩
      rintro ⟨front, back, heq, hfront⟩
      -- All of the text has been looked at, and a marker takes up some of it.
      have hle := h front back heq hfront
      have hlength := congrArg List.length (hcs.symm.trans heq)
      rw [← hmarker] at hlength
      simp only [List.reverse_nil, List.length_append, List.length_cons, List.length_nil] at hlength
      omega
  | case6 after c before hdrop ih =>
      have hcut : cs = before.reverse ++ [c] ++ after := by
        rw [hcs]
        simp
      refine ih (by rw [hcut]; simp) (h.pass hcut ?_)
      rintro ⟨front, hfront⟩
      have hsome : dropStart? marker.reverse (c :: before) = some front.reverse := by
        refine dropStart?_eq_some_iff.mpr ?_
        rw [← List.reverse_append, hfront]
        simp
      rw [hdrop] at hsome
      cases hsome

end Last

/-! ### What stands behind it -/

/-- A name without dependency directories has no inner name. -/
theorem innerName?_of_plain {marker name : String} (h : ¬ HasRoot marker.toList name.toList) :
    innerName? marker name = none := by
  by_contra hsome
  obtain ⟨inner, hinner⟩ := Option.ne_none_iff_exists'.mp hsome
  obtain ⟨front, heq, hfront⟩ := innerName?_eq_some hinner
  exact h ⟨front, inner.toList, heq, hfront⟩

section Directory

variable {marker name : String} {directory : List Char} (hflat : '/' ∉ directory)
  (hmarker : marker.toList = directory ++ ['/'])

include hflat hmarker

/-- The inner name is the shortest one behind a dependency directory. -/
theorem innerName?_shortest :
    (∃ inner, innerName? marker name = some inner ∧
        Shortest marker.toList name.toList inner.toList) ∨
      innerName? marker name = none ∧ ¬ HasRoot marker.toList name.toList := by
  have hwhole : name.toList = name.toList.reverse.reverse ++ [] := by simp
  have hstart : Shortest (directory ++ ['/']) name.toList [] := fun _ _ _ _ => Nat.zero_le _
  unfold innerName?
  rw [hmarker]
  obtain ⟨inner, hinner, hshortest⟩ | ⟨hnone, hplain⟩ := afterMarker_shortest hflat hwhole hstart
  · refine Or.inl ⟨String.ofList inner, ?_, ?_⟩
    · rw [hinner, Option.map_some]
    · rwa [String.toList_ofList]
  · refine Or.inr ⟨?_, hplain⟩
    rw [hnone, Option.map_none]

theorem innerName?_eq_none_iff :
    innerName? marker name = none ↔ ¬ HasRoot marker.toList name.toList := by
  refine ⟨fun hnone => ?_, innerName?_of_plain⟩
  obtain ⟨inner, hinner, -⟩ | ⟨-, hplain⟩ := innerName?_shortest hflat hmarker
  · rw [hinner] at hnone
    cases hnone
  · exact hplain

end Directory

/-- **A name is cut behind its last dependency directory**, whatever stands before that. -/
theorem innerName?_of_root {marker front inner : String} (hmarker : NamesDirectory marker)
    (hfront : BeginsSegment front.toList) (hinner : ¬ HasRoot marker.toList inner.toList) :
    innerName? marker (front ++ marker ++ inner) = some inner := by
  obtain ⟨name, -, hflat, hname⟩ := hmarker
  have hcs : (front ++ marker ++ inner).toList = front.toList ++ marker.toList ++ inner.toList := by
    rw [String.toList_append, String.toList_append]
  obtain ⟨found, hfound, hshortest⟩ | ⟨-, hplain⟩ := innerName?_shortest hflat hname
  · obtain ⟨first, heq, hfirst⟩ := innerName?_eq_some hfound
    have hboth := hcs.symm.trans heq
    rw [hname] at hboth hinner
    obtain ⟨-, hsame⟩ | ⟨gap, rfl, hgap⟩ :=
      occurrences_apart hflat hboth (hshortest _ _ hcs hfront)
    · rw [hfound, String.toList_inj.mp hsame]
    · exact absurd ⟨gap, found.toList, hgap, BeginsSegment.of_append hfirst⟩ hinner
  · exact absurd ⟨_, _, hcs, hfront⟩ hplain

/-! ### Looking names up -/

section Lookup

variable {env : Environment} {cache : RawCache} {specifier : String}

/-- What the text behind the last dependency directory opens to is found, if it is not for the
archive. -/
theorem search_of_inner {inner text : String} {body : Body}
    (hinner : innerName? env.settings.dependencyMarker specifier = some inner)
    (harchive : env.archive.findFile specifier = none)
    (hopens : env.resources.openName env.files inner = .ok (some body)) (htext : ReadsTo body text) :
    search env specifier = .ok (some ⟨specifier, text⟩) := by
  have hfile : (Candidate.file specifier).answer env = .ok none := by
    rw [Candidate.answer_file, harchive]
    rfl
  have hresource : (Candidate.resource inner specifier inner).answer env
      = .ok (some ⟨specifier, text⟩) := by
    rw [Candidate.answer_of_opens hopens, readAs_of_readsTo htext]
  have hbefore : ∀ artifact, .ok (some artifact) ∉ [(Candidate.file specifier).answer env] := by
    simp [hfile]
  rw [search_eq_verdict]
  unfold candidatesOf pathCandidates
  rw [hinner]
  simp only [Option.toList_some, List.map_cons, List.map_nil, List.cons_append, List.nil_append,
    hresource]
  exact verdict_of_found hbefore

/-- The packaged resources that a name without dependency directories may mean: those below the
package roots, the one that the name is itself, and the one of the URL that it spells. -/
def plainResources (settings : Settings) (name : String) : List String :=
  settings.packageRoots.map (fun root => root ++ name) ++
    name :: ((spelledUrl? name).map Url.resourceName).toList

theorem mem_plainResources {settings : Settings} {name resource : String} {candidate : Candidate}
    (hinner : innerName? settings.dependencyMarker name = none)
    (hmem : candidate ∈ candidatesOf settings name) (hresource : candidate.resource? = some resource) :
    resource ∈ plainResources settings name := by
  unfold candidatesOf at hmem
  unfold plainResources
  rw [pathCandidates_of_plain hinner] at hmem
  simp only [List.mem_append, List.mem_cons, List.mem_map, Option.mem_toList, List.not_mem_nil,
    or_false] at hmem ⊢
  rcases hmem with ((rfl | ⟨root, hroot, rfl⟩) | hurl) | rfl
  · cases hresource
  · cases hresource
    exact Or.inl ⟨root, hroot, rfl⟩
  · obtain ⟨url, hspelled, hmeans⟩ := Option.bind_eq_some_iff.mp hurl
    rw [hspelled]
    exact Or.inr (Or.inr (congrArg some (resource?_of_urlCandidate? hmeans hresource).symm))
  · cases hresource
    exact Or.inr (Or.inl rfl)

/-- Without a base the outcome rests on the lookup of the name as it stands. -/
theorem find_unbased_congr {env other : Environment} (h : search other specifier = search env specifier) :
    find other cache specifier none = find env cache specifier none := by
  unfold find findIn findUnbased
  rw [h]

end Lookup

/-- **What a dependency directory means.**  If the marker is the name of one directory, a name with
dependency directories that is not in the archive is what the text behind the last of them opens to,
whatever there is below the package roots.  A name without dependency directories is looked up as it
stands, even where the name of a directory ends in the marker: no resources but the plain ones are
opened for it, whatever the marker is. -/
theorem find_remapped (env : Environment) (cache : RawCache) :
    let marker := env.settings.dependencyMarker
    (NamesDirectory marker → ∀ (front inner text : String) (body : Body),
      let specifier := front ++ marker ++ inner
      BeginsSegment front.toList → ¬ HasRoot marker.toList inner.toList →
      Reference.isRelative specifier = false → cache.get? specifier = none →
      env.archive.findFile specifier = none →
      env.resources.openName env.files inner = .ok (some body) → ReadsTo body text →
      find env cache specifier none
        = (.ok (some ⟨⟨specifier, text⟩, some (.raw specifier)⟩),
            cache.add specifier ⟨specifier, text⟩)) ∧
    ∀ specifier : String, ¬ HasRoot marker.toList specifier.toList → ∀ other : ResourceSpace,
      (∀ resource ∈ plainResources env.settings specifier,
        other.openName env.files resource = env.resources.openName env.files resource) →
      find { env with resources := other } cache specifier none = find env cache specifier none := by
  intro marker
  refine ⟨?_, ?_⟩
  · intro hmarker front inner text body specifier hfront hinner hrel hfree harchive hopens htext
    have hsearch := search_of_inner (innerName?_of_root hmarker hfront hinner) harchive hopens htext
    rw [find_of_fresh none hrel hfree, hsearch]
  · intro specifier hplain other hsame
    refine find_unbased_congr (search_congr ?_)
    intro candidate hmem resource hresource
    exact hsame resource (mem_plainResources (innerName?_of_plain hplain) hmem hresource)

/-- The damaged environment with a module in a directory that is called almost like a dependency
directory. -/
def lookalike : Environment :=
  { damaged with
    resources := ⟨damaged.resources.providers ++ [.memory [("my_node_modules/x.js", "x".toUTF8)]]⟩ }

/-- The same resources, and one more under the name that follows the text of the marker. -/
def remapped : ResourceSpace :=
  ⟨lookalike.resources.providers ++ [.memory [("x.js", "other".toUTF8)]]⟩

/-- The module is found behind two dependency directories although nothing can be read below the
package root, and its own directory is none. -/
theorem find_remapped_lookalike :
    NamesDirectory lookalike.settings.dependencyMarker ∧
      find lookalike {} "a/node_modules/b/node_modules/my_node_modules/x.js" none
        = (.ok (some ⟨⟨"a/node_modules/b/node_modules/my_node_modules/x.js", "x"⟩,
              some (.raw "a/node_modules/b/node_modules/my_node_modules/x.js")⟩),
            RawCache.add {} "a/node_modules/b/node_modules/my_node_modules/x.js"
              ⟨"a/node_modules/b/node_modules/my_node_modules/x.js", "x"⟩) ∧
      ¬ HasRoot lookalike.settings.dependencyMarker.toList "my_node_modules/x.js".toList ∧
      find { lookalike with resources := remapped } {} "my_node_modules/x.js" none
        = find lookalike {} "my_node_modules/x.js" none := by
  have hmarker : lookalike.settings.dependencyMarker.toList = "node_modules".toList ++ ['/'] := by rfl
  have hone : NamesDirectory lookalike.settings.dependencyMarker :=
    ⟨"node_modules".toList, by decide, by decide, hmarker⟩
  have hplain : ¬ HasRoot lookalike.settings.dependencyMarker.toList "my_node_modules/x.js".toList := by
    rw [hmarker, hasRoot_iff (by decide)]
    decide
  have hfront : BeginsSegment "a/node_modules/b/".toList := Or.inr ⟨"a/node_modules/b".toList, rfl⟩
  obtain ⟨hnested, hkept⟩ := find_remapped lookalike {}
  refine ⟨hone, ?_, hplain, ?_⟩
  · exact hnested hone "a/node_modules/b/" "my_node_modules/x.js" "x" ⟨"x".toUTF8, none⟩ hfront hplain
      (by decide) rfl rfl rfl ⟨rfl, rfl⟩
  · refine hkept "my_node_modules/x.js" hplain remapped ?_
    intro resource hmem
    have hresources : plainResources lookalike.settings "my_node_modules/x.js"
        = ["node_modules/my_node_modules/x.js", ".atomist/node_modules/my_node_modules/x.js",
          "my_node_modules/x.js"] := by rfl
    simp only [hresources, List.mem_cons, List.not_mem_nil, or_false] at hmem
    rcases hmem with rfl | rfl | rfl
    · rfl
    · rfl
    · rfl

end ModuleLoader.Search
