/-
The schemes that packaged resources are served under.

Three places tell what a scheme is, and each has its own idea of it.  Settings accept lower-case
letters and digits; a name is taken for a URL only if lower-case letters alone stand before its
colon; and a URL is read by the rules of its scheme, a few of which read a file or a host where
others read a path.  So resources are served under a scheme that settings accept if and only if it
has no digit and no rules of its own (`served_iff`).
-/
import ModuleLoader.Proofs.Search.Failure
import ModuleLoader.Proofs.Url.Authority
import ModuleLoader.Proofs.Url.Join

namespace ModuleLoader.Search

open Text

/-- The URL of a packaged resource. -/
def resourceUrl (scheme name : String) : String := scheme ++ ":/" ++ name

theorem resourceUrl_toList (scheme name : String) :
    (resourceUrl scheme name).toList = scheme.toList ++ ':' :: '/' :: name.toList := by
  simp [resourceUrl]

theorem resourceUrl_eq (scheme name : String) :
    resourceUrl scheme name = String.ofList (scheme.toList ++ ':' :: '/' :: name.toList) := by
  rw [← resourceUrl_toList, String.ofList_toList]

/-- Something is found for a text before it is tried as a URL. -/
inductive Shadowed (env : Environment) (text : String) : Prop
  | archive (contents : String) (hfile : env.archive.findFile text = some contents)
  /-- The packaged resource that is named after the last dependency directory. -/
  | nested (inner : String) (artifact : Artifact)
      (hinner : innerName? env.settings.dependencyMarker text = some inner)
      (hopen : openResource env inner text = .ok (some artifact))
  /-- The packaged resource below a package root. -/
  | packaged (root : String) (artifact : Artifact) (hroot : root ∈ env.settings.packageRoots)
      (hopen : openResource env
        (root ++ (innerName? env.settings.dependencyMarker text).getD text) text
          = .ok (some artifact))

/-- What is tried before a text is tried as a URL. -/
def beforeUrl (env : Environment) (text : String) :
    List (Unit → Except LoadError (Option Artifact)) :=
  ((innerName? env.settings.dependencyMarker text).toList.map fun inner => fun () =>
      openResource env inner text) ++
    env.settings.packageRoots.map fun root => fun () =>
      openResource env (root ++ (innerName? env.settings.dependencyMarker text).getD text) text

theorem candidates_eq_beforeUrl (env : Environment) (text : String) :
    candidates env text = beforeUrl env text ++
      [fun () => openAsUrl env text, fun () => openResource env text text] := rfl

theorem shadowed_of_mem {env : Environment} {text : String} {artifact : Artifact}
    (h : .ok (some artifact) ∈ given (archived env text :: beforeUrl env text)) :
    Shadowed env text := by
  obtain ⟨candidate, hcandidate, hfound⟩ := List.mem_map.mp h
  unfold beforeUrl at hcandidate
  simp only [List.mem_cons, List.mem_append, List.mem_map, Option.mem_toList] at hcandidate
  rcases hcandidate with rfl | ⟨inner, hinner, rfl⟩ | ⟨root, hroot, rfl⟩
  · obtain ⟨contents, hfile, -⟩ := Option.map_eq_some_iff.mp (Except.ok.inj hfound)
    exact .archive contents hfile
  · exact .nested inner artifact hinner hfound
  · exact .packaged root artifact hroot hfound

/-- A packaged resource that can be asked for by its URL: the settings are accepted and name the
scheme, nothing else is found for the URL, and the resource opens to a text. -/
structure Offers (env : Environment) (scheme name contents : String) : Prop where
  valid : env.settings.validate = .ok ()
  served : env.settings.resourceScheme = scheme
  names : Url.Names name.toList
  unshadowed : ¬ Shadowed env (resourceUrl scheme name)
  opens : ∃ bytes, env.resources.openName env.files name = .ok (some ⟨bytes, none⟩) ∧
    Utf8.decode bytes = .ok contents

/-- Every packaged resource is found by its URL under the scheme, if it is not known by then. -/
def Served (scheme : String) : Prop :=
  ∀ (env : Environment) (cache : RawCache) (name contents : String),
    Offers env scheme name contents → cache.get? (resourceUrl scheme name) = none →
    (find env cache (resourceUrl scheme name) none).1
      = .ok (some ⟨⟨resourceUrl scheme name, contents⟩, some (.raw (resourceUrl scheme name))⟩)

/-! ### Schemes that settings accept -/

section Schemes

variable {scheme : String}

theorem isScheme_ne_nil (h : Settings.isScheme scheme = true) : scheme.toList ≠ [] := by
  rw [Settings.isScheme, Bool.and_eq_true] at h
  intro hnil
  have hempty : scheme = "" := String.toList_inj.mp hnil
  rw [hempty] at h
  exact absurd h.1 (by decide)

theorem isScheme_mem (h : Settings.isScheme scheme = true) {c : Char} (hc : c ∈ scheme.toList) :
    c.isLower = true ∨ c.isDigit = true := by
  rw [Settings.isScheme, Bool.and_eq_true, List.all_eq_true] at h
  simpa using h.2 c hc

theorem isScheme_not_mem (h : Settings.isScheme scheme = true) {c : Char}
    (hlower : c.isLower = false) (hdigit : c.isDigit = false) : c ∉ scheme.toList := by
  intro hc
  rcases isScheme_mem h hc with hc | hc
  · rw [hlower] at hc
    cases hc
  · rw [hdigit] at hc
    cases hc

/-- The URL of a resource looks like one if the scheme consists of letters. -/
theorem looksLikeUrl_resourceUrl (h : Settings.isScheme scheme = true) (name : String) :
    Reference.looksLikeUrl (resourceUrl scheme name) = scheme.toList.all Char.isLower := by
  have hcut : cut? ':' (resourceUrl scheme name).toList
      = some (scheme.toList, '/' :: name.toList) := by
    rw [resourceUrl_toList]
    exact cut?_eq_some_iff.mpr ⟨rfl, isScheme_not_mem h (by decide) (by decide)⟩
  unfold Reference.looksLikeUrl Reference.looksLikeUrlChars
  rw [hcut]
  simp [isScheme_ne_nil h]

theorem isRelative_resourceUrl (h : Settings.isScheme scheme = true) (name : String) :
    Reference.isRelative (resourceUrl scheme name) = false := by
  rw [← Bool.not_eq_true]
  intro hrel
  obtain ⟨dots, hdots, rest, hform⟩ := Reference.isRelative_iff.mp hrel
  have hdot : '.' ∈ scheme.toList := by
    rw [resourceUrl_toList] at hform
    rcases hscheme : scheme.toList with _ | ⟨c, cs⟩
    · exact absurd hscheme (isScheme_ne_nil h)
    · rw [hscheme] at hform
      rcases hdots with rfl | rfl
      · exact (List.cons.inj hform).1 ▸ List.mem_cons_self
      · exact (List.cons.inj hform).1 ▸ List.mem_cons_self
  exact isScheme_not_mem h (by decide) (by decide) hdot

theorem isLowerScheme_of_letters (h : Settings.isScheme scheme = true)
    (hletters : ∀ c ∈ scheme.toList, c.isLower = true) : Url.IsLowerScheme scheme.toList := by
  have halpha : ∀ c ∈ scheme.toList, c.isAlpha = true := by
    intro c hc
    simp [Char.isAlpha, hletters c hc]
  refine ⟨?_, ?_⟩
  · rcases hform : scheme.toList with _ | ⟨first, rest⟩
    · exact absurd hform (isScheme_ne_nil h)
    · rw [hform] at halpha
      refine ⟨halpha first List.mem_cons_self, List.all_eq_true.mpr fun c hc => ?_⟩
      simp [Url.isSchemeChar, Char.isAlphanum, halpha c (List.mem_cons_of_mem _ hc)]
  · intro c hc
    by_contra hupper
    rw [Bool.not_eq_false] at hupper
    exact Char.not_isUpper_of_isLower (hletters c hc) hupper

end Schemes

/-! ### Resources that are served -/

/-- The resource of a URL is named by the segments with slashes between them. -/
theorem resourceName_eq_join {scheme : List Char} {segments : List (List Char)} (hne : segments ≠ [])
    (hslash : ∀ rest, join '/' segments ≠ '/' :: rest) :
    (Url.rooted scheme segments).resourceName = String.ofList (join '/' segments) := by
  have hfirst : (join '/' segments).dropWhile (· = '/') = join '/' segments := by
    rcases hjoin : join '/' segments with _ | ⟨c, rest⟩
    · rfl
    · refine List.dropWhile_cons_of_neg ?_
      have hc := hslash rest
      rw [hjoin] at hc
      simpa using fun heq : c = '/' => hc (by rw [heq])
  unfold Url.resourceName Url.rooted Url.Path.text
  simp only [flatMap_cons_eq_join '/' hne]
  rw [List.dropWhile_cons_of_pos (by decide), hfirst]

/-- The name of a resource is read off its URL. -/
theorem resourceName_rooted {scheme : List Char} {name : String} (h : Url.Names name.toList) :
    (Url.rooted scheme (split '/' name.toList)).resourceName = name := by
  rw [resourceName_eq_join (split_ne_nil '/' name.toList) (by rw [join_split]; exact h.ne_slash),
    join_split, String.ofList_toList]

section Served

variable {env : Environment} {scheme name contents : String}

theorem openAsUrl_offered (h : Offers env scheme name contents) (hscheme : Url.IsGeneric scheme.toList)
    (hlooks : Reference.looksLikeUrl (resourceUrl scheme name) = true) :
    openAsUrl env (resourceUrl scheme name) = .ok (some ⟨resourceUrl scheme name, contents⟩) := by
  obtain ⟨bytes, hopen, hdecode⟩ := h.opens
  have hparse := Url.parse_rooted hscheme h.names
  rw [← resourceUrl_eq] at hparse
  have htext : (Url.rooted scheme.toList (split '/' name.toList)).text = resourceUrl scheme name := by
    unfold Url.text
    rw [Url.chars_rooted (split_ne_nil '/' _) h.names.nonempty, join_split, resourceUrl_eq]
  have hfile : ¬ scheme.toList = "file".toList := by
    intro hfile
    have hgeneric := hscheme.generic
    rw [hfile] at hgeneric
    cases hgeneric
  have hurl : openUrl env (Url.rooted scheme.toList (split '/' name.toList))
      = .ok (some ⟨resourceUrl scheme name, contents⟩) := by
    unfold openUrl ByUrl.openUrl
    rw [if_neg (show ¬ (Url.rooted scheme.toList _).scheme = "file".toList from hfile),
      if_pos (show (Url.rooted scheme.toList _).scheme = env.settings.resourceScheme.toList by
        rw [h.served]; rfl)]
    unfold ByUrl.openResource
    rw [resourceName_rooted h.names, hopen]
    unfold Artifact.ofBody
    simp only [hdecode, htext]
    rfl
  unfold openAsUrl
  rw [if_pos hlooks]
  simp only [hparse, hurl]

theorem search_offered (h : Offers env scheme name contents)
    (hurl : openAsUrl env (resourceUrl scheme name)
      = .ok (some ⟨resourceUrl scheme name, contents⟩)) :
    search env (resourceUrl scheme name) = .ok (some ⟨resourceUrl scheme name, contents⟩) := by
  have hplaces : places env (resourceUrl scheme name)
      = given (archived env (resourceUrl scheme name) :: beforeUrl env (resourceUrl scheme name))
        ++ .ok (some ⟨resourceUrl scheme name, contents⟩)
        :: [openResource env (resourceUrl scheme name) (resourceUrl scheme name)] := by
    rw [← hurl]
    unfold places given
    rw [candidates_eq_beforeUrl, ← List.cons_append, List.map_append]
    rfl
  rw [search_eq_firstOf]
  exact firstOf_of_found hplaces fun other hmem => h.unshadowed (shadowed_of_mem hmem)

/-- A resource that is offered is found. -/
theorem find_offered (h : Offers env scheme name contents) (hscheme : Url.IsGeneric scheme.toList)
    (hlooks : Reference.looksLikeUrl (resourceUrl scheme name) = true) {cache : RawCache}
    (hfresh : cache.get? (resourceUrl scheme name) = none) :
    (find env cache (resourceUrl scheme name) none).1
      = .ok (some ⟨⟨resourceUrl scheme name, contents⟩, some (.raw (resourceUrl scheme name))⟩) := by
  have hrel : Reference.isRelative (resourceUrl scheme name) = false :=
    Reference.isRelative_of_isAbsolute (Reference.isAbsolute_of_looksLikeUrl hlooks)
  unfold find
  rw [findIn_of_fresh hfresh hrel, search_offered h (openAsUrl_offered h hscheme hlooks), keeping]
  simp only [RawCache.remember_of_none hfresh]

end Served

/-! ### Resources that are not served -/

/-- An environment with the default settings but for the scheme, and one packaged resource. -/
def sole (scheme name contents : String) : Environment where
  settings := { resourceScheme := scheme }
  resources := ⟨[.memory [(name, contents.toUTF8)]]⟩

section Sole

variable {scheme name contents : String}

theorem openResource_sole {other : String} (h : other ≠ name) (identity : String) :
    openResource (sole scheme name contents) other identity = .ok none := by
  have hopen : (sole scheme name contents).resources.openName (sole scheme name contents).files other
      = .ok none := by
    show ResourceSpace.openFrom _ other none [.memory [(name, contents.toUTF8)]] = .ok none
    have hlookup : List.lookup other [(name, contents.toUTF8)] = none := by
      rw [List.lookup_cons, beq_eq_false_iff_ne.mpr h]
      rfl
    unfold ResourceSpace.openFrom Provider.openName
    simp only [hlookup]
    rfl
  unfold openResource
  rw [hopen]

/-- A text with a colon is not the name of the resource, whatever stands before it. -/
theorem append_resourceUrl_ne (hname : Url.Names name.toList) (front scheme : String) :
    front ++ resourceUrl scheme name ≠ name := by
  intro heq
  have hmem : ':' ∈ (front ++ resourceUrl scheme name).toList := by
    rw [String.toList_append, resourceUrl_toList]
    simp
  rw [heq] at hmem
  exact hname.not_mem (by decide) (by decide) hmem

variable (h : Settings.isScheme scheme = true) (hname : Url.Names name.toList)
  (hmarker : '_' ∉ name.toList)

include h hmarker in
theorem innerName?_sole :
    innerName? (sole scheme name contents).settings.dependencyMarker (resourceUrl scheme name)
      = none := by
  refine innerName?_eq_none (c := '_') (show '_' ∈ "node_modules/".toList by decide) ?_
  rw [resourceUrl_toList]
  simp [isScheme_not_mem h (c := '_') (by decide) (by decide), hmarker]

include h hname hmarker

theorem beforeUrl_sole :
    ∀ candidate ∈ beforeUrl (sole scheme name contents) (resourceUrl scheme name),
      candidate () = .ok none := by
  intro candidate hmem
  unfold beforeUrl at hmem
  rw [innerName?_sole h hmarker] at hmem
  simp only [Option.toList_none, List.map_nil, List.nil_append, List.mem_map, Option.getD_none]
    at hmem
  obtain ⟨root, -, rfl⟩ := hmem
  exact openResource_sole (append_resourceUrl_ne hname root scheme) _

theorem offers_sole : Offers (sole scheme name contents) scheme name contents := by
  refine ⟨?_, rfl, hname, ?_, contents.toUTF8, ?_, Utf8.decode_toUTF8 contents⟩
  · show Settings.validate { resourceScheme := scheme } = .ok ()
    have hdefault : Settings.isMarker "node_modules/" = true := by decide
    simp [Settings.validate, hdefault, h]
  · intro hshadowed
    have hnone := @beforeUrl_sole scheme name contents h hname hmarker
    unfold beforeUrl at hnone
    simp only [List.mem_append, List.mem_map] at hnone
    cases hshadowed with
    | archive contents hfile => cases hfile
    | nested inner artifact hinner hopen =>
        rw [innerName?_sole h hmarker] at hinner
        cases hinner
    | packaged root artifact hroot hopen =>
        have habsent := hnone _ (Or.inr ⟨root, hroot, rfl⟩)
        rw [hopen] at habsent
        cases habsent
  · show ResourceSpace.openFrom _ name none [.memory [(name, contents.toUTF8)]] = _
    unfold ResourceSpace.openFrom Provider.openName
    simp only [List.lookup_cons_self, Option.map_some]

/-- Where the URL of the resource opens nothing, nothing is found for it. -/
theorem find_sole
    (hurl : openAsUrl (sole scheme name contents) (resourceUrl scheme name) = .ok none) :
    (find (sole scheme name contents) {} (resourceUrl scheme name) none).1 = .ok none := by
  have hsearch : search (sole scheme name contents) (resourceUrl scheme name) = .ok none := by
    show firstOf none (candidates (sole scheme name contents) (resourceUrl scheme name)) = .ok none
    refine firstOf_nothing _ fun candidate hmem => ?_
    rw [candidates_eq_beforeUrl, List.mem_append] at hmem
    rcases hmem with hmem | hmem
    · exact beforeUrl_sole h hname hmarker candidate hmem
    · simp only [List.mem_cons, List.not_mem_nil, or_false] at hmem
      rcases hmem with rfl | rfl
      · exact hurl
      · have hne := append_resourceUrl_ne hname "" scheme
        rw [String.empty_append] at hne
        exact openResource_sole hne _
  unfold find
  rw [findIn_of_fresh rfl (isRelative_resourceUrl h name), hsearch]
  rfl

end Sole

section Rules

variable {scheme : String}

/-- The web reads a host behind the slash, so that no path is left. -/
theorem parse_web (hscheme : Url.IsLowerScheme scheme.toList)
    (hclass : Url.SchemeClass.of scheme.toList = .web) {url : Url}
    (hurl : Url.parse (resourceUrl scheme "x") = .ok url) :
    url.scheme = scheme.toList ∧ url.resourceName = "" := by
  have hafter : Url.afterSlashes scheme.toList
      ⟨scheme.toList ++ ':' :: '/' :: "x".toList, none, none⟩ ['x'] = .ok url := by
    rw [resourceUrl_eq, Url.parse_fromRoot hscheme (by decide)] at hurl
    unfold Url.parseAbsolute at hurl
    simp only [hclass] at hurl
    exact hurl
  refine ⟨Url.afterSlashes_scheme hafter, ?_⟩
  obtain ⟨authority, more, hostAndPort, rest, hcredentials, -, hport, rfl⟩ :=
    Url.afterSlashes_eq_ok hafter
  rw [hclass, show (['x'].takeWhile fun ch => !Url.SchemeClass.web.separates ch) = ['x'] by decide]
    at hcredentials
  have hread : Url.credentials ['x'] more = .ok ([], [], ['x']) := rfl
  obtain rfl : ['x'] = hostAndPort := by
    rw [hread] at hcredentials
    exact (Prod.mk.inj (Prod.mk.inj (Except.ok.inj hcredentials)).2).2
  obtain rfl : [] = rest := by
    rw [show Url.cutHost ['x'] = (['x'], []) by decide] at hport
    exact (Prod.mk.inj (Except.ok.inj hport)).2
  unfold Url.resourceName
  simp only [hclass]
  decide

/-- A resource that is asked for under a scheme of the web is not found. -/
theorem openAsUrl_sole_web (hscheme : Url.IsLowerScheme scheme.toList)
    (hclass : Url.SchemeClass.of scheme.toList = .web) :
    openAsUrl (sole scheme "x" "") (resourceUrl scheme "x") = .ok none := by
  unfold openAsUrl
  split
  · rcases hurl : Url.parse (resourceUrl scheme "x") with fault | url
    · rfl
    · obtain ⟨hsame, hname⟩ := parse_web hscheme hclass hurl
      have hfile : ¬ url.scheme = "file".toList := by
        rw [hsame]
        intro hfile
        rw [hfile] at hclass
        cases hclass
      have hopen : openUrl (sole scheme "x" "") url = .ok none := by
        unfold openUrl ByUrl.openUrl
        rw [if_neg hfile, if_pos
          (show url.scheme = (sole scheme "x" "").settings.resourceScheme.toList from hsame)]
        unfold ByUrl.openResource
        rw [hname, show (sole scheme "x" "").resources.openName (sole scheme "x" "").files ""
          = .ok none from rfl]
      simp only [hopen]
  · rfl

theorem openAsUrl_sole_file : openAsUrl (sole "file" "x" "") (resourceUrl "file" "x") = .ok none := by
  cbv

end Rules

/-- **Packaged resources are served under a scheme that settings accept if and only if it consists
of letters and has no rules of its own.** -/
theorem served_iff {scheme : String} (h : Settings.isScheme scheme = true) :
    Served scheme ↔
      (∀ c ∈ scheme.toList, c.isLower = true) ∧ Url.SchemeClass.of scheme.toList = .generic := by
  constructor
  · intro hserved
    have hfound := hserved (sole scheme "x" "") {} "x" ""
      (offers_sole h (by decide) (by decide)) rfl
    have hopens : openAsUrl (sole scheme "x" "") (resourceUrl scheme "x") ≠ .ok none := by
      intro hurl
      rw [find_sole h (by decide) (by decide) hurl] at hfound
      cases hfound
    have hlooks : Reference.looksLikeUrl (resourceUrl scheme "x") = true := by
      by_contra hlooks
      refine hopens ?_
      unfold openAsUrl
      rw [if_neg hlooks]
    rw [looksLikeUrl_resourceUrl h, List.all_eq_true] at hlooks
    refine ⟨hlooks, ?_⟩
    rcases hclass : Url.SchemeClass.of scheme.toList with _ | _ | _
    · exact absurd (openAsUrl_sole_web (isLowerScheme_of_letters h hlooks) hclass) hopens
    · have hfile : scheme.toList = "file".toList := by
        unfold Url.SchemeClass.of at hclass
        split at hclass
        · next heq => exact heq
        · split at hclass <;> cases hclass
      obtain rfl : scheme = "file" := String.toList_inj.mp hfile
      exact absurd openAsUrl_sole_file hopens
    · rfl
  · rintro ⟨hletters, hclass⟩ env cache name contents hoffers hfresh
    refine find_offered hoffers ⟨isLowerScheme_of_letters h hletters, hclass⟩ ?_ hfresh
    rw [looksLikeUrl_resourceUrl h]
    exact List.all_eq_true.mpr hletters

/-- The default scheme serves packaged resources. -/
theorem served_iff_classpath : Settings.isScheme "classpath" = true ∧ Served "classpath" := by
  have h : Settings.isScheme "classpath" = true := by decide
  exact ⟨h, (served_iff h).mpr ⟨by simp, by decide⟩⟩

/-- A scheme with a digit is accepted, but what is offered under it is not found. -/
theorem find_numbered :
    Offers (sole "res1" "lib/x.js" "packaged") "res1" "lib/x.js" "packaged" ∧
      (find (sole "res1" "lib/x.js" "packaged") {} "res1:/lib/x.js" none).1 = .ok none := by
  have h : Settings.isScheme "res1" = true := by decide
  have hname : Url.Names "lib/x.js".toList := by decide
  have hmarker : '_' ∉ "lib/x.js".toList := by decide
  have hurl : openAsUrl (sole "res1" "lib/x.js" "packaged") (resourceUrl "res1" "lib/x.js")
      = .ok none := by
    have hlooks : Reference.looksLikeUrl (resourceUrl "res1" "lib/x.js") = false := by decide
    unfold openAsUrl
    rw [hlooks]
    rfl
  exact ⟨offers_sole h hname hmarker, find_sole h hname hmarker hurl⟩

end ModuleLoader.Search
