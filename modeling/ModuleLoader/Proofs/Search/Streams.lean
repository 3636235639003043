/-
Streams that break off.

A packaged resource is taken from the first provider that opens it.  A provider that lacks the
resource or fails to open it does not stand in the way, but once a stream has been handed out nothing
goes back to the providers: the module is what the stream holds, and if the stream breaks off, the
candidate has failed (`search_of_opens`).  The failure is then held back like any other, while the
candidates after it are asked, so a later provider of the same resource is not asked any more
(`not_failsOver_brokenOff`).
-/
import ModuleLoader.Proofs.Search.Candidates

namespace ModuleLoader.Search

/-! ### A candidate that is reached -/

/-- The lookup of a name comes to a packaged resource: it is one of the candidates, and none before
it gives a module. -/
structure Reaches (env : Environment) (specifier : String) (before : List Candidate)
    (candidate : Candidate) (after : List Candidate) : Prop where
  order : candidatesOf env.settings specifier = before ++ candidate :: after
  nothing : ∀ earlier ∈ before, ∀ artifact, earlier.answer env ≠ .ok (some artifact)

section Reached

variable {env : Environment} {specifier : String} {before after : List Candidate}
  {candidate : Candidate}

theorem Reaches.search_eq (h : Reaches env specifier before candidate after) :
    search env specifier = verdict (before.map (Candidate.answer env) ++
      candidate.answer env :: after.map (Candidate.answer env)) := by
  rw [search_eq_verdict, h.order, List.map_append, List.map_cons]

theorem Reaches.search_of_found {artifact : Artifact}
    (h : Reaches env specifier before candidate after)
    (hanswer : candidate.answer env = .ok (some artifact)) :
    search env specifier = .ok (some artifact) := by
  rw [h.search_eq, hanswer]
  refine verdict_of_found fun other hmem => ?_
  obtain ⟨earlier, hearlier, heq⟩ := List.mem_map.mp hmem
  exact h.nothing earlier hearlier other heq

/-- A name comes to the packaged resource that it is itself if it has no dependency directories and
looks like no URL, the archive lacks it and nothing of the name is opened below a package root. -/
theorem reaches_own {name : String} (hplain : innerName? env.settings.dependencyMarker name = none)
    (hurl : Reference.looksLikeUrl name = false) (harchive : env.archive.findFile name = none)
    (hroots : ∀ root ∈ env.settings.packageRoots, ∀ body,
      env.resources.openName env.files (root ++ name) ≠ .ok (some body)) :
    Reaches env name (pathCandidates env.settings name) (.resource name name name) [] := by
  have hspelled : spelledUrl? name = none := by
    unfold spelledUrl?
    rw [hurl]
    rfl
  refine ⟨?_, ?_⟩
  · unfold candidatesOf
    rw [hspelled]
    simp
  · rw [pathCandidates_of_plain hplain]
    simp only [List.mem_cons, List.mem_map]
    rintro earlier (rfl | ⟨root, hroot, rfl⟩) artifact
    · rw [Candidate.answer_file, harchive]
      exact nofun
    · intro hanswer
      obtain ⟨body, hopens⟩ := Candidate.opens_of_answer hanswer
      exact hroots root hroot body hopens

end Reached

/-- A stream that breaks off is what could not be read. -/
theorem readAs_of_failure {identity : String} {body : Body} {cause : IoError}
    (h : body.failure = some cause) : readAs identity body = .error (.io identity cause) := by
  unfold readAs Artifact.ofBody
  rw [h]
  rfl

/-- **The first provider that opens a resource is the one that is read.**  Where the lookup of a name
comes to a packaged resource, and the providers before that one lack the resource or fail to open it,
the name is found as the text of its stream.  If the stream breaks off, that is the answer of the
candidate, whatever the providers after it would give. -/
theorem search_of_opens (env : Environment) (specifier : String) (before after : List Candidate)
    (name identity blamed : String)
    (hreaches : Reaches env specifier before (.resource name identity blamed) after) (body : Body)
    (hopens : env.resources.OpensFirst env.files name body) :
    (∀ text, ReadsTo body text → search env specifier = .ok (some ⟨identity, text⟩)) ∧
      ∀ cause, body.failure = some cause →
        search env specifier = verdict (before.map (Candidate.answer env) ++
          .error (.io identity cause) :: after.map (Candidate.answer env)) := by
  have hanswer : (Candidate.resource name identity blamed).answer env = readAs identity body :=
    Candidate.answer_of_opens ((ResourceSpace.openName_eq_some_iff env.files name).mpr hopens)
  refine ⟨fun text htext => ?_, fun cause hcause => ?_⟩
  · exact hreaches.search_of_found (hanswer.trans (readAs_of_readsTo htext))
  · rw [hreaches.search_eq, hanswer, readAs_of_failure hcause]

/-- A provider of one resource, whose stream breaks off. -/
def brokenStream : Provider :=
  .custom fun name =>
    .ok (if name = "x.js" then some ⟨"half".toUTF8, some .accessDenied⟩ else none)

/-- A stream that breaks off, before a provider that holds whole texts. -/
def brokenOff : Environment :=
  { resources := ⟨[brokenStream, .memory [("x.js", "x".toUTF8), ("y.js", "y".toUTF8)]]⟩ }

theorem innerName?_brokenOff {name : String} (hname : name = "x.js" ∨ name = "y.js") :
    innerName? brokenOff.settings.dependencyMarker name = none := by
  rcases hname with rfl | rfl
  · exact innerName?_eq_none (c := 'd') (by decide) (by decide)
  · exact innerName?_eq_none (c := 'd') (by decide) (by decide)

theorem reaches_brokenOff {name : String} (hname : name = "x.js" ∨ name = "y.js") :
    Reaches brokenOff name (pathCandidates brokenOff.settings name) (.resource name name name) [] := by
  refine reaches_own (innerName?_brokenOff hname) ?_ ?_ ?_
  · rcases hname with rfl | rfl <;> decide
  · rfl
  · intro root hroot body
    simp only [brokenOff, List.mem_cons, List.not_mem_nil, or_false] at hroot
    rcases hroot with rfl | rfl <;> rcases hname with rfl | rfl <;> exact nofun

/-- What the first provider lacks is read from the second one, and what breaks off is not. -/
theorem search_of_opens_brokenOff :
    (Reaches brokenOff "y.js" (pathCandidates brokenOff.settings "y.js")
        (.resource "y.js" "y.js" "y.js") [] ∧
      brokenOff.resources.OpensFirst brokenOff.files "y.js" ⟨"y".toUTF8, none⟩ ∧
      search brokenOff "y.js" = .ok (some ⟨"y.js", "y"⟩)) ∧
    Reaches brokenOff "x.js" (pathCandidates brokenOff.settings "x.js")
        (.resource "x.js" "x.js" "x.js") [] ∧
      brokenOff.resources.OpensFirst brokenOff.files "x.js" ⟨"half".toUTF8, some .accessDenied⟩ ∧
      search brokenOff "x.js" = .error (.io "x.js" .accessDenied) := by
  have hlacks : brokenOff.resources.OpensFirst brokenOff.files "y.js" ⟨"y".toUTF8, none⟩ := by
    rw [← ResourceSpace.openName_eq_some_iff]
    rfl
  have hbreaks : brokenOff.resources.OpensFirst brokenOff.files "x.js"
      ⟨"half".toUTF8, some .accessDenied⟩ := by
    rw [← ResourceSpace.openName_eq_some_iff]
    rfl
  have hsecond := reaches_brokenOff (Or.inr rfl)
  have hfirst := reaches_brokenOff (Or.inl rfl)
  have hwhole := search_of_opens brokenOff "y.js" _ _ _ _ _ hsecond _ hlacks
  have hbroken := search_of_opens brokenOff "x.js" _ _ _ _ _ hfirst _ hbreaks
  refine ⟨⟨hsecond, hlacks, hwhole.1 "y" ⟨rfl, rfl⟩⟩, hfirst, hbreaks, ?_⟩
  rw [hbroken.2 .accessDenied rfl, pathCandidates_of_plain (innerName?_brokenOff (Or.inl rfl))]
  rfl

/-! ### No second provider -/

/-- A provider has no whole text of the name to give: it lacks the name, fails to open it, or opens a
stream that breaks off. -/
def Withholds (files : FileTree) (name : String) (provider : Provider) : Prop :=
  provider.openName files name = .ok none ∨ (∃ cause, provider.openName files name = .error cause) ∨
    ∃ body cause, provider.openName files name = .ok (some body) ∧ body.failure = some cause

/-- The lookup of a name finds the text of the first provider that gives a whole one. -/
def FailsOver (env : Environment) (specifier : String) : Prop :=
  ∀ (before after : List Candidate) (name identity blamed : String),
    Reaches env specifier before (.resource name identity blamed) after →
    ∀ (earlier later : List Provider) (provider : Provider) (body : Body) (text : String),
      env.resources.providers = earlier ++ provider :: later →
      (∀ other ∈ earlier, Withholds env.files name other) →
      provider.openName env.files name = .ok (some body) → ReadsTo body text →
      search env specifier = .ok (some ⟨identity, text⟩)

/-- The stream that breaks off hides the text of the second provider. -/
theorem not_failsOver_brokenOff :
    search brokenOff "x.js" = .error (.io "x.js" .accessDenied) ∧ ¬ FailsOver brokenOff "x.js" := by
  have hreaches := reaches_brokenOff (Or.inl rfl)
  have hfails : search brokenOff "x.js" = .error (.io "x.js" .accessDenied) := by
    rw [hreaches.search_eq, pathCandidates_of_plain (innerName?_brokenOff (Or.inl rfl))]
    rfl
  refine ⟨hfails, fun hover => ?_⟩
  have hwithholds : ∀ other ∈ [brokenStream], Withholds brokenOff.files "x.js" other := by
    intro other hother
    rw [List.mem_singleton.mp hother]
    exact Or.inr (Or.inr ⟨⟨"half".toUTF8, some .accessDenied⟩, .accessDenied, rfl, rfl⟩)
  have hfound := hover _ _ _ _ _ hreaches [brokenStream] [] _ ⟨"x".toUTF8, none⟩ "x" rfl
    hwithholds rfl ⟨rfl, rfl⟩
  rw [hfails] at hfound
  cases hfound

end ModuleLoader.Search
