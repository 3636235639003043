/-
Names without a colon, and the files of the machine.

A file of the machine is named by a URL, and no URL is without a colon.  A name that has none is
looked up in the archive and among the packaged resources, and if these are held in memory it
does not matter what files there are (`agreeOnPaths_withFiles`).

A name with a colon does not come up by itself.  What is found under a name without one is known
by that name, and a reference brings nothing into a path but what it is made of.  So whatever is
kept in the course of requests without colons has a path for its identity (`Local.stays`), and the
requests are answered alike whatever files there are (`answers_withFiles`).
-/
import ModuleLoader.Proofs.Search.Identity
import ModuleLoader.Proofs.Search.Yields

namespace ModuleLoader

/-- The environment on a machine with other files. -/
def Environment.withFiles (env : Environment) (files : FileTree) : Environment :=
  { env with files := files }

namespace Search

open OnDemand (Request)

/-! ### Names without a colon -/

/-- The name has no colon, so it is no URL but a path. -/
def IsPath (name : String) : Prop := ':' ∉ name.toList

instance (name : String) : Decidable (IsPath name) :=
  inferInstanceAs (Decidable (':' ∉ name.toList))

/-- The artifact is known by a path. -/
def HasPath (artifact : Artifact) : Prop := IsPath artifact.uri

section Paths

variable {env : Environment} {name base reference target : String}

theorem IsPath.isAbsolute (h : IsPath name) : Reference.isAbsolute name = false :=
  Reference.isAbsolute_of_not_mem h

/-- What a path means in a path is a path. -/
theorem IsPath.resolve (hbase : IsPath base) (hreference : IsPath reference)
    (hrel : Reference.isRelative reference = true)
    (h : Reference.resolve base reference = .ok target) : IsPath target := by
  intro hcolon
  rcases Reference.mem_of_resolve hbase.isAbsolute hrel h (by decide) hcolon with hmem | hmem
  · exact hbase hmem
  · exact hreference hmem

theorem IsPath.finds (h : IsPath name) : Finds env HasPath name := by
  intro artifact hfound
  have huri : artifact.uri = name := uri_of_search h.isAbsolute hfound
  unfold HasPath
  rwa [huri]

theorem IsPath.leads (hbase : IsPath base) (hreference : IsPath reference)
    (hrel : Reference.isRelative reference = true) : Leads env HasPath base reference := by
  have htarget (target : String) (h : Reference.resolve base reference = .ok target) :
      IsPath target := hbase.resolve hreference hrel h
  refine ⟨fun target h => (htarget target h).finds, fun target h habs => ?_⟩
  rw [(htarget target h).isAbsolute] at habs
  cases habs

end Paths

/-! ### Environments in which paths mean the same -/

/-- Looking up a path finds the same in both environments. -/
def AgreeOnPaths (env other : Environment) : Prop :=
  ∀ name, IsPath name → search other name = search env name

namespace AgreeOnPaths

variable {env other : Environment} (h : AgreeOnPaths env other) (cache : RawCache)

include h

theorem findAlone {name : String} (hname : IsPath name) :
    Search.findAlone other cache name = Search.findAlone env cache name := by
  unfold Search.findAlone
  rw [h name hname]

theorem findAgainst {base : Artifact} {specifier : String} (hbase : HasPath base)
    (hspecifier : IsPath specifier) (hrel : Reference.isRelative specifier = true) :
    Search.findAgainst other cache base specifier = Search.findAgainst env cache base specifier := by
  rcases htarget : Reference.resolve base.uri specifier with cause | target
  · unfold Search.findAgainst
    rw [htarget]
  · rw [findAgainst_of_target htarget, findAgainst_of_target htarget]
    exact h.findAlone cache (IsPath.resolve hbase hspecifier hrel htarget)

theorem findInContext {context : Artifact} {specifier : String} (hcontext : HasPath context)
    (hspecifier : IsPath specifier) (hrel : Reference.isRelative specifier = true) :
    Search.findInContext other cache context specifier
      = Search.findInContext env cache context specifier := by
  rcases htarget : Reference.resolve context.uri specifier with cause | target
  · unfold Search.findInContext
    rw [htarget]
  · have hpath := IsPath.resolve hcontext hspecifier hrel htarget
    have habs := Bool.eq_false_iff.mp hpath.isAbsolute
    rw [findInContext_of_path htarget habs, findInContext_of_path htarget habs]
    exact h.findAlone cache hpath

theorem findUnbased {specifier : String} {context : Option Artifact}
    (hcontext : ∀ running ∈ context, HasPath running) (hspecifier : IsPath specifier)
    (hrel : Reference.isRelative specifier = true) :
    Search.findUnbased other cache specifier context
      = Search.findUnbased env cache specifier context := by
  rcases context with _ | running
  · unfold Search.findUnbased
    simp only
    rw [h specifier hspecifier]
  · rw [findUnbased_some, findUnbased_some,
      h.findInContext cache (hcontext running rfl) hspecifier hrel]
    unfold orLiteral
    rw [h specifier hspecifier]

/-- A search that comes across paths only is the same search. -/
theorem findIn {specifier : String} {base : Option String} {context : Option Artifact}
    (hcache : cache.All HasPath) (hspecifier : IsPath specifier) (hbase : ∀ name ∈ base, IsPath name)
    (hcontext : ∀ running ∈ context, HasPath running) :
    Search.findIn other cache specifier base context
      = Search.findIn env cache specifier base context := by
  rcases hheld : cache.get? specifier with _ | artifact
  · by_cases hrel : Reference.isRelative specifier = true
    · rcases base with _ | name
      · rw [findIn_of_unbased hheld hrel, findIn_of_unbased hheld hrel]
        exact h.findUnbased cache hcontext hspecifier hrel
      · -- A base is a path if it is known by one, and it is: it is kept, or found under its name.
        have hfinds : Yields HasPath (Search.findAlone env cache name) :=
          findAlone_yields hcache (hbase name rfl).finds
        rw [findIn_of_based hheld hrel, findIn_of_based hheld hrel,
          h.findAlone cache (hbase name rfl)]
        rcases hfound : (Search.findAlone env cache name).1 with e | _ | found
        · rfl
        · exact h.findUnbased _ hcontext hspecifier hrel
        · exact h.findAgainst _ (hfinds.answer found hfound) hspecifier hrel
    · have hfresh := Bool.eq_false_iff.mpr hrel
      rw [findIn_of_fresh hheld hfresh, findIn_of_fresh hheld hfresh, h specifier hspecifier]
  · rw [findIn_of_held hheld, findIn_of_held hheld]

end AgreeOnPaths

/-! ### Environments with other files -/

/-- Resources in memory are opened without the files. -/
theorem openName_inMemory {space : ResourceSpace} (hmemory : InMemory space)
    (tree other : FileTree) (name : String) :
    space.openName other name = space.openName tree name := by
  rw [ResourceSpace.openName_eq_verdict, ResourceSpace.openName_eq_verdict]
  refine congrArg verdict (List.map_congr_left fun provider hmem => ?_)
  obtain ⟨files, rfl⟩ := hmemory provider hmem
  rfl

/-- The files do not matter to paths if packaged resources are held in memory. -/
theorem agreeOnPaths_withFiles {env : Environment} (hmemory : InMemory env.resources)
    (files : FileTree) : AgreeOnPaths env (env.withFiles files) := by
  intro name hname
  have hresource : openResource (env.withFiles files) = openResource env := by
    funext resource identity
    have hopen : env.resources.openName files resource = env.resources.openName env.files resource :=
      openName_inMemory hmemory env.files files resource
    unfold openResource Environment.withFiles
    simp only
    rw [hopen]
  have hurl (env : Environment) : openAsUrl env name = .ok none := by
    unfold openAsUrl
    rw [looksLikeUrl_of_plain hname]
    rfl
  have hcandidates : candidates (env.withFiles files) name = candidates env name := by
    unfold candidates
    rw [hresource, hurl, hurl]
    rfl
  unfold search
  rw [hcandidates]
  rfl

/-! ### Requests one after the other -/

/-- Nothing in the request has a colon, and packaged resources are held in memory. -/
structure Local (request : Request) : Prop where
  memory : InMemory request.env.resources
  specifier : IsPath request.specifier
  base : ∀ name ∈ request.base, IsPath name
  context : ∀ running ∈ request.context, HasPath running

/-- The same request on a machine with other files. -/
def OtherFiles (request other : Request) : Prop :=
  ∃ files, other = { request with env := request.env.withFiles files }

/-- The answers to requests in order. -/
def answers : RawCache → List Request → List Outcome
  | _, [] => []
  | cache, request :: rest => (serve cache request).1 :: answers (serve cache request).2 rest

section Requests

variable {cache : RawCache} {request other : Request}

/-- Nothing but paths is kept. -/
theorem Local.stays (h : Local request) (hcache : cache.All HasPath) :
    (serve cache request).2.All HasPath :=
  (Search.stays h.specifier.finds (fun name hname => (h.base name hname).finds)
    (fun hrel _ hpath => IsPath.leads hpath h.specifier hrel)
    (fun hrel running hrunning => IsPath.leads (h.context running hrunning) h.specifier hrel)
    cache hcache).cache

theorem Local.serve_otherFiles (h : Local request) (hcache : cache.All HasPath)
    (hother : OtherFiles request other) : serve cache other = serve cache request := by
  obtain ⟨files, rfl⟩ := hother
  exact (agreeOnPaths_withFiles h.memory files).findIn cache hcache h.specifier h.base h.context

theorem answers_otherFiles {requests others : List Request}
    (hothers : List.Forall₂ OtherFiles requests others) :
    ∀ {cache : RawCache}, cache.All HasPath → (∀ request ∈ requests, Local request) →
      answers cache others = answers cache requests ∧
      afterAll cache others = afterAll cache requests := by
  -- One request after the other: the caches are the same and hold nothing but paths.
  induction hothers with
  | nil => intro cache _ _; exact ⟨rfl, rfl⟩
  | @cons request other rest others hother _ ih =>
      intro cache hcache hlocal
      have hfirst := hlocal request List.mem_cons_self
      obtain ⟨hanswers, hafter⟩ := ih (hfirst.stays hcache)
        fun later hlater => hlocal later (List.mem_cons_of_mem _ hlater)
      have hserve := hfirst.serve_otherFiles hcache hother
      refine ⟨?_, ?_⟩
      · rw [answers, answers, hserve, hanswers]
      · unfold afterAll at hafter ⊢
        rw [List.foldl_cons, List.foldl_cons, hserve, hafter]

end Requests

/-- **Paths lead to no files of the machine.**  Requests without colons are answered alike, one
after the other, whatever files there are when each of them comes, and what is kept in the end is
the same, as long as packaged resources are held in memory. -/
theorem answers_withFiles (requests others : List Request)
    (hlocal : ∀ request ∈ requests, Local request)
    (hothers : List.Forall₂ OtherFiles requests others) :
    answers {} others = answers {} requests ∧ afterAll {} others = afterAll {} requests :=
  answers_otherFiles hothers nofun hlocal

/-- An archive, and packaged resources in memory. -/
def bundled : Environment :=
  { archive := .ofFiles [("lib/x.js", "x")],
    resources := ⟨[.memory [("node_modules/z.js", "z".toUTF8)]]⟩ }

/-- Files of the machine. -/
def someFiles : FileTree :=
  ⟨[(["lib"], .directory), (["lib", "x.js"], .file "other".toUTF8),
    (["lib", "y.js"], .file "y".toUTF8)]⟩

/-- Requests for a module of the archive, for one that is nowhere but among the files, and for a
packaged one. -/
def pathRequests : List Request :=
  [⟨bundled, "./x.js", some "lib/y.js", some ⟨"lib/main.js", ""⟩⟩,
    ⟨bundled, "lib/y.js", none, none⟩, ⟨bundled, "z.js", none, none⟩]

theorem local_bundled {specifier : String} {base : Option String} {context : Option Artifact}
    (hspecifier : IsPath specifier) (hbase : ∀ name ∈ base, IsPath name)
    (hcontext : ∀ running ∈ context, HasPath running) :
    Local ⟨bundled, specifier, base, context⟩ := by
  refine ⟨?_, hspecifier, hbase, hcontext⟩
  intro provider hprovider
  rw [List.mem_singleton.mp hprovider]
  exact ⟨_, rfl⟩

/-- The module that lies among the files is not found by its path. -/
theorem answers_withFiles_bundled :
    let others := pathRequests.map fun request =>
      { request with env := request.env.withFiles someFiles }
    (∀ request ∈ pathRequests, Local request) ∧ List.Forall₂ OtherFiles pathRequests others ∧
      answers {} others = answers {} pathRequests ∧
      afterAll {} others = afterAll {} pathRequests := by
  intro others
  have hlocal : ∀ request ∈ pathRequests, Local request := by
    intro request hrequest
    unfold pathRequests at hrequest
    simp only [List.mem_cons, List.not_mem_nil, or_false] at hrequest
    rcases hrequest with rfl | rfl | rfl
    · refine local_bundled (by decide) ?_ ?_
      · rintro name ⟨⟩
        decide
      · rintro running ⟨⟩
        show IsPath "lib/main.js"
        decide
    · exact local_bundled (by decide) nofun nofun
    · exact local_bundled (by decide) nofun nofun
  have hothers : List.Forall₂ OtherFiles pathRequests others := by
    rw [List.forall₂_map_right_iff, List.forall₂_same]
    exact fun request _ => ⟨someFiles, rfl⟩
  exact ⟨hlocal, hothers, answers_withFiles pathRequests others hlocal hothers⟩

end Search

end ModuleLoader
