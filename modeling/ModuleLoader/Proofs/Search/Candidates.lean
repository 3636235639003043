/-
What a name may mean.

A name is looked for in the archive, among the packaged resources under the name that follows its
last dependency directory, below every package root, as a URL, and among the packaged resources as
it stands.  Here the candidates are a list (`candidatesOf`), made from the settings and the name
alone, and each of them is asked on its own (`Candidate.answer`).  Looking the name up comes to the
verdict on their answers (`search_eq_verdict`), and a name that is not relative and has not been
found before is answered with it, whatever its base (`find_eq_verdict`).
-/
import ModuleLoader.Proofs.Resource
import ModuleLoader.Proofs.Search.Failure

namespace ModuleLoader.Search

/-- Something that a name may mean. -/
inductive Candidate where
  /-- The file of the archive at a path. -/
  | file (path : String)
  /-- A packaged resource, and the identity of the module in it.  If no provider opens the
  resource, `blamed` is what could not be read. -/
  | resource (name identity blamed : String)
  /-- A file of this machine, and the identity of the module in it. -/
  | machineFile (path : List String) (identity : String)
  deriving Repr, DecidableEq

/-- The name of the packaged resource that a candidate means. -/
def Candidate.resource? : Candidate → Option String
  | .resource name _ _ => some name
  | _ => none

/-- The module that a stream of text holds. -/
def readAs (identity : String) (body : Body) : Except LoadError (Option Artifact) :=
  (Artifact.ofBody identity body).map some

/-- What a candidate gives when it is asked on its own. -/
def Candidate.answer (env : Environment) : Candidate → Except LoadError (Option Artifact)
  | .file path => .ok ((env.archive.findFile path).map (Artifact.mk path))
  | .resource name identity blamed =>
    match verdict (env.resources.replies env.files name) with
    | .ok (some body) => readAs identity body
    | .ok none => .ok none
    | .error cause => .error (.io blamed cause)
  | .machineFile path identity =>
    match env.files.stat path with
    | .ok (_, .file bytes) => readAs identity ⟨bytes, none⟩
    | .ok _ => .error (.io identity .isDirectory)
    | .error cause => if cause.kind = .notFound then .ok none else .error (.io identity cause)

/-- The URL that a name spells, if it looks like one. -/
def spelledUrl? (name : String) : Option Url :=
  if Reference.looksLikeUrl name then (Url.parse name).toOption else none

/-- What a URL means: a file of this machine, or a packaged resource; `scheme` is the one that
packaged resources are served under.  A `file` URL that is no path of this machine means nothing,
and neither does any other URL. -/
def urlCandidate? (scheme : String) (url : Url) : Option Candidate :=
  if url.scheme = "file".toList then
    url.localNames?.map fun path => .machineFile path url.text
  else if url.scheme = scheme.toList then
    some (.resource url.resourceName url.text url.text)
  else none

/-- The packaged resource that a URL means is the one that its path names. -/
theorem resource?_of_urlCandidate? {scheme resource : String} {url : Url} {candidate : Candidate}
    (hmeans : urlCandidate? scheme url = some candidate)
    (hresource : candidate.resource? = some resource) : resource = url.resourceName := by
  unfold urlCandidate? at hmeans
  split at hmeans
  · obtain ⟨path, -, rfl⟩ := Option.map_eq_some_iff.mp hmeans
    cases hresource
  · split at hmeans
    · cases hmeans
      cases hresource
      rfl
    · cases hmeans

/-- What a name may mean as a path: a file of the archive, the packaged resource named by what
follows the last dependency directory, and packaged resources below the package roots. -/
def pathCandidates (settings : Settings) (name : String) : List Candidate :=
  let packaged (resource : String) : Candidate := .resource resource name resource
  let inner := innerName? settings.dependencyMarker name
  .file name :: (inner.toList.map packaged ++
    settings.packageRoots.map fun root => packaged (root ++ inner.getD name))

/-- A name without inner name may mean a file of the archive or a resource below a package root. -/
theorem pathCandidates_of_plain {settings : Settings} {name : String}
    (hplain : innerName? settings.dependencyMarker name = none) :
    pathCandidates settings name = .file name ::
      settings.packageRoots.map fun root => .resource (root ++ name) name (root ++ name) := by
  unfold pathCandidates
  rw [hplain]
  rfl

/-- What a name may mean, in order of precedence. -/
def candidatesOf (settings : Settings) (name : String) : List Candidate :=
  pathCandidates settings name ++
    ((spelledUrl? name).bind (urlCandidate? settings.resourceScheme)).toList ++
    [.resource name name name]

/-- Reading a stream to its end gives a text. -/
def ReadsTo (body : Body) (text : String) : Prop :=
  body.failure = none ∧ Text.Utf8.decode body.bytes = .ok text

theorem readAs_of_readsTo {identity : String} {body : Body} {text : String}
    (h : ReadsTo body text) : readAs identity body = .ok (some ⟨identity, text⟩) := by
  obtain ⟨hwhole, htext⟩ := h
  unfold readAs Artifact.ofBody
  rw [hwhole]
  simp only [htext]
  rfl

section Lookup

variable {env : Environment}

theorem readAs_isIo {identity : String} {body : Body} {e : LoadError}
    (h : readAs identity body = .error e) : e.isIo = true := ofBody_isIo h

theorem Candidate.answer_file (path : String) : (Candidate.file path).answer env
    = .ok ((env.archive.findFile path).map (Artifact.mk path)) := rfl

/-- The candidate is what is in the first stream that a provider opens. -/
theorem Candidate.answer_of_opens {name identity blamed : String} {body : Body}
    (h : env.resources.openName env.files name = .ok (some body)) :
    (Candidate.resource name identity blamed).answer env = readAs identity body := by
  rw [ResourceSpace.openName_eq_verdict] at h
  unfold answer
  simp only [h]

theorem Candidate.opens_of_answer {name identity blamed : String} {artifact : Artifact}
    (h : (Candidate.resource name identity blamed).answer env = .ok (some artifact)) :
    ∃ body, env.resources.openName env.files name = .ok (some body) := by
  rw [ResourceSpace.openName_eq_verdict]
  unfold answer at h
  rcases hverdict : verdict (env.resources.replies env.files name) with cause | _ | body
  · simp only [hverdict] at h
    cases h
  · simp only [hverdict] at h
    cases h
  · exact ⟨body, rfl⟩

/-- A candidate fails only if it cannot be read. -/
theorem Candidate.answer_isIo {candidate : Candidate} {e : LoadError}
    (h : candidate.answer env = .error e) : e.isIo = true := by
  unfold Candidate.answer at h
  cases candidate with
  | file path => cases h
  | resource name identity blamed =>
      simp only at h
      split at h
      · exact readAs_isIo h
      · cases h
      · cases h
        rfl
  | machineFile path identity =>
      simp only at h
      split at h
      · exact readAs_isIo h
      · cases h
        rfl
      · split at h
        · cases h
        · cases h
          rfl

theorem openResource_eq_answer (name identity : String) :
    openResource env name identity = (Candidate.resource name identity name).answer env := by
  unfold openResource Candidate.answer
  rw [ResourceSpace.openName_eq_verdict]
  rfl

/-- A URL opens to what it means; one that means nothing is absent, or else malformed. -/
theorem openUrl_eq_answer (url : Url) :
    openUrl env url = match urlCandidate? env.settings.resourceScheme url with
      | some candidate => candidate.answer env
      | none =>
        if url.scheme = "file".toList then .error (.malformed ⟨url.text, .notLocal⟩) else .ok none := by
  unfold openUrl ByUrl.openUrl urlCandidate?
  by_cases hfile : url.scheme = "file".toList
  · rw [if_pos hfile, if_pos hfile]
    unfold ByUrl.openFile
    rcases url.localNames? with _ | path
    · rw [if_pos hfile]
      rfl
    · simp only [Option.map_some]
      unfold Candidate.answer
      simp only
      rcases env.files.stat path with cause | ⟨found, bytes | _ | target⟩ <;> rfl
  · rw [if_neg hfile, if_neg hfile]
    by_cases hscheme : url.scheme = env.settings.resourceScheme.toList
    · rw [if_pos hscheme, if_pos hscheme]
      unfold ByUrl.openResource
      rw [ResourceSpace.openName_eq_verdict]
      rfl
    · rw [if_neg hscheme, if_neg hscheme]
      simp only
      rw [if_neg hfile]

theorem openAsUrl_eq_answer (name : String) :
    openAsUrl env name
      = ((spelledUrl? name).bind (urlCandidate? env.settings.resourceScheme)).elim (.ok none)
          (Candidate.answer env) := by
  unfold openAsUrl spelledUrl?
  by_cases hlooks : Reference.looksLikeUrl name = true
  · rw [if_pos hlooks, if_pos hlooks]
    rcases Url.parse name with fault | url
    · rfl
    · show _ = (urlCandidate? env.settings.resourceScheme url).elim (.ok none) (Candidate.answer env)
      have hopen : openUrl env url = _ := openUrl_eq_answer url
      rcases hmeans : urlCandidate? env.settings.resourceScheme url with _ | candidate
      · rw [hmeans] at hopen
        by_cases hfile : url.scheme = "file".toList
        · simp only [if_pos hfile] at hopen
          simp only [hopen]
          rfl
        · simp only [if_neg hfile] at hopen
          simp only [hopen]
          rfl
      · simp only [hmeans] at hopen
        simp only [hopen]
        rcases hanswer : candidate.answer env with e | found
        · have hio := Candidate.answer_isIo hanswer
          cases e with
          | malformed cause => cases hio
          | _ => exact hanswer.symm
        · exact hanswer.symm
  · rw [if_neg hlooks, if_neg hlooks]
    rfl

theorem given_eq_answers (env : Environment) (name : String) :
    given (archived env name :: candidates env name)
      = (pathCandidates env.settings name).map (Candidate.answer env) ++
        openAsUrl env name :: [(Candidate.resource name name name).answer env] := by
  unfold given candidates pathCandidates
  simp only [List.map_cons, List.map_append, List.map_map, List.map_nil, Function.comp_def,
    openResource_eq_answer, List.cons_append]
  rfl

/-- **Looking a name up comes to the verdict on its candidates.** -/
theorem search_eq_verdict (env : Environment) (name : String) :
    search env name = verdict ((candidatesOf env.settings name).map (Candidate.answer env)) := by
  rw [search_eq_firstOf, firstOf_eq_verdict, given_eq_answers, openAsUrl_eq_answer]
  unfold candidatesOf
  rw [List.map_append, List.map_append, List.append_assoc]
  rcases (spelledUrl? name).bind (urlCandidate? env.settings.resourceScheme) with _ | candidate
  · exact verdict_absent _ _
  · rfl

/-! ### Other resources -/

variable {other : ResourceSpace}

theorem Candidate.answer_congr {candidate : Candidate}
    (h : ∀ resource, candidate.resource? = some resource →
      other.openName env.files resource = env.resources.openName env.files resource) :
    candidate.answer { env with resources := other } = candidate.answer env := by
  cases candidate with
  | file path => rfl
  | machineFile path identity => rfl
  | resource name identity blamed =>
      have hopen := h name rfl
      rw [ResourceSpace.openName_eq_verdict, ResourceSpace.openName_eq_verdict] at hopen
      unfold answer
      simp only [hopen]

/-- No other resources are opened than those that the candidates mean. -/
theorem search_congr {name : String}
    (h : ∀ candidate ∈ candidatesOf env.settings name, ∀ resource,
      candidate.resource? = some resource →
        other.openName env.files resource = env.resources.openName env.files resource) :
    search { env with resources := other } name = search env name := by
  rw [search_eq_verdict, search_eq_verdict]
  exact congrArg verdict
    (List.map_congr_left fun candidate hmem => Candidate.answer_congr (h candidate hmem))

end Lookup

/-- What is looked up for a specifier: the specifier as it stands, its base, and what it means in the
module that its base is found to be. -/
inductive LooksUp (env : Environment) (cache : RawCache) (specifier : String) (base : Option String) :
    String → Prop
  | itself : LooksUp env cache specifier base specifier
  | base {name : String} (hbase : base = some name) : LooksUp env cache specifier base name
  | target {name target : String} {found : Found} (hbase : base = some name)
      (hfound : (findAlone env cache name).1 = .ok (some found))
      (htarget : Reference.resolve found.artifact.uri specifier = .ok target) :
      LooksUp env cache specifier base target

/-- Nothing else is looked up for a specifier. -/
theorem find_congr {env other : Environment} {cache : RawCache} {specifier : String}
    {base : Option String}
    (h : ∀ name, LooksUp env cache specifier base name → search other name = search env name) :
    find other cache specifier base = find env cache specifier base := by
  have halone (cache : RawCache) {name : String} (hname : search other name = search env name) :
      findAlone other cache name = findAlone env cache name := by
    unfold findAlone
    rw [hname]
  have hunbased (cache : RawCache) :
      findUnbased other cache specifier none = findUnbased env cache specifier none := by
    unfold findUnbased
    simp only
    rw [h specifier .itself]
  unfold find
  rcases hheld : cache.get? specifier with _ | artifact
  · by_cases hrel : Reference.isRelative specifier = true
    · rcases base with _ | name
      · rw [findIn_of_unbased hheld hrel, findIn_of_unbased hheld hrel, hunbased]
      · rw [findIn_of_based hheld hrel, findIn_of_based hheld hrel, halone cache (h name (.base rfl))]
        rcases hfound : (findAlone env cache name).1 with e | _ | found
        · rfl
        · exact hunbased _
        · rcases htarget : Reference.resolve found.artifact.uri specifier with cause | target
          · simp only [findAgainst, htarget]
          · simp only [findAgainst_of_target htarget]
            exact halone _ (h target (.target rfl hfound htarget))
    · have hfresh := Bool.eq_false_iff.mpr hrel
      rw [findIn_of_fresh hheld hfresh, findIn_of_fresh hheld hfresh, h specifier .itself]
  · rw [findIn_of_held hheld, findIn_of_held hheld]

/-- A name that is not relative and has not been found before is looked up as it stands, and what
is found is kept. -/
theorem find_of_fresh {env : Environment} {cache : RawCache} {specifier : String}
    (base : Option String) (hrel : Reference.isRelative specifier = false)
    (hfree : cache.get? specifier = none) :
    find env cache specifier base = match search env specifier with
      | .ok (some artifact) =>
        (.ok (some ⟨artifact, some (.raw specifier)⟩), cache.add specifier artifact)
      | .ok none => (.ok none, cache)
      | .error e => (.error e, cache) := by
  unfold find
  rw [findIn_of_fresh hfree hrel]
  rcases search env specifier with e | _ | artifact
  · rfl
  · rfl
  · unfold keeping
    simp only [RawCache.remember_of_none hfree]

/-- **What is found for a name.**  For every base, a name that is not relative and has not been
found before is answered with the verdict on what its candidates give: the module that the first of
them gives, whatever could not be read before it, or else the first failure, or else nothing.  Only
a module that is found is kept, and no candidate fails but by what cannot be read. -/
theorem find_eq_verdict (env : Environment) (cache : RawCache) (specifier : String)
    (base : Option String) (hrel : Reference.isRelative specifier = false)
    (hfree : cache.get? specifier = none) :
    let answers := (candidatesOf env.settings specifier).map (Candidate.answer env)
    (find env cache specifier base = match verdict answers with
      | .ok (some artifact) =>
        (.ok (some ⟨artifact, some (.raw specifier)⟩), cache.add specifier artifact)
      | .ok none => (.ok none, cache)
      | .error e => (.error e, cache)) ∧
    ∀ e, .error e ∈ answers → e.isIo = true := by
  intro answers
  refine ⟨?_, ?_⟩
  · rw [find_of_fresh base hrel hfree, search_eq_verdict]
  · intro e he
    obtain ⟨candidate, -, hanswer⟩ := List.mem_map.mp he
    exact Candidate.answer_isIo hanswer

/-- The damaged environment with one more provider of packaged resources. -/
def mended : Environment :=
  { damaged with
    resources := ⟨damaged.resources.providers ++ [.memory [("lib/y.js", "y".toUTF8)]]⟩ }

/-- The packaged resource is found although what comes before it cannot be read. -/
theorem find_eq_verdict_mended :
    Reference.isRelative "lib/y.js" = false ∧ RawCache.get? {} "lib/y.js" = none ∧
      find mended {} "lib/y.js" (some "lib/gone.js")
        = (.ok (some ⟨⟨"lib/y.js", "y"⟩, some (.raw "lib/y.js")⟩),
            RawCache.add {} "lib/y.js" ⟨"lib/y.js", "y"⟩) := by
  have hrel : Reference.isRelative "lib/y.js" = false := by decide
  have hinner : innerName? mended.settings.dependencyMarker "lib/y.js" = none :=
    innerName?_eq_none (c := 'd') (by decide) (by decide)
  have hverdict : verdict ((candidatesOf mended.settings "lib/y.js").map (Candidate.answer mended))
      = .ok (some ⟨"lib/y.js", "y"⟩) := by
    unfold candidatesOf pathCandidates
    rw [hinner]
    rfl
  have hfind := (find_eq_verdict mended {} "lib/y.js" (some "lib/gone.js") hrel rfl).1
  rw [hverdict] at hfind
  exact ⟨hrel, rfl, hfind⟩

end ModuleLoader.Search
