/-
Finding modules by plain names.

A name without a colon names no URL, and one without a backslash is looked up in the archive
as it is written.  Under such a name a module is found only if the name, or what follows its
last dependency directory, is one of finitely many, as long as packaged resources are held in
memory.  So a plain target of a reference that is found is at most so much longer than its
stem (`length_le_of_search`).
-/
import ModuleLoader.Proofs.Path.Normalized
import ModuleLoader.Proofs.Resource
import ModuleLoader.Proofs.Search.Cache
import ModuleLoader.Proofs.Search.Stem

namespace ModuleLoader

namespace Search

open Text

/-! ### The last dependency directory -/

/-- What is taken for the inner name stands after a dependency directory. -/
theorem afterMarker_eq_some {marker : List Char} {before after inner : List Char}
    (h : afterMarker marker before after = some inner) :
    ∃ front, before.reverse ++ after = front ++ marker ++ inner ∧
      (front = [] ∨ ∃ rest, front = rest ++ ['/']) := by
  fun_induction afterMarker marker before after with
  | case1 before after rest hdrop hboundary =>
      obtain rfl := Option.some.inj h
      refine ⟨rest.reverse, ?_, ?_⟩
      · rw [dropStart?_eq_some_iff.mp hdrop]
        simp
      · rcases rest with _ | ⟨c, rest⟩
        · exact Or.inl rfl
        · right
          refine ⟨rest.reverse, ?_⟩
          rcases hboundary with hnil | hhead
          · cases hnil
          · rw [List.reverse_cons, Option.some.inj hhead]
  | case2 => cases h
  | case3 after rest hdrop hboundary hmarker c before ih =>
      obtain ⟨front, heq, hfront⟩ := ih h
      exact ⟨front, by rw [← heq]; simp, hfront⟩
  | case4 before after rest hdrop hboundary hmarker ih =>
      obtain ⟨front, heq, hfront⟩ := ih h
      refine ⟨front, ?_, hfront⟩
      rw [← heq, dropStart?_eq_some_iff.mp hdrop]
      simp
  | case5 => cases h
  | case6 after c before hdrop ih =>
      obtain ⟨front, heq, hfront⟩ := ih h
      exact ⟨front, by rw [← heq]; simp, hfront⟩

/-- Behind a last segment without slashes the marker is found. -/
theorem afterMarker_flat {name rest : List Char} (hrest : rest = [] ∨ rest.head? = some '/')
    (back : List Char) : '/' ∉ back → ∀ after,
      afterMarker (name ++ ['/']) (back ++ (name ++ ['/']).reverse ++ rest) after
        = some (back.reverse ++ after) := by
  induction back with
  | nil =>
      intro _ after
      have hdrop : dropStart? (name ++ ['/']).reverse ((name ++ ['/']).reverse ++ rest)
          = some rest := dropStart?_eq_some_iff.mpr rfl
      rw [List.nil_append, afterMarker]
      split
      · next rest' h =>
          obtain rfl := Option.some.inj (hdrop.symm.trans h)
          rw [if_pos hrest]
          rfl
      · next h =>
          rw [hdrop] at h
          cases h
  | cons c back ih =>
      intro hslash after
      have hc : c ≠ '/' := fun heq => hslash (by rw [heq]; exact List.mem_cons_self)
      have hdrop : dropStart? (name ++ ['/']).reverse
          (c :: (back ++ (name ++ ['/']).reverse ++ rest)) = none := by
        rw [List.reverse_append]
        exact if_neg (Ne.symm hc)
      rw [List.cons_append, List.cons_append, afterMarker]
      split
      · next h =>
          rw [hdrop] at h
          cases h
      · simp only
        rw [ih (fun hmem => hslash (List.mem_cons_of_mem _ hmem)), List.reverse_cons,
          List.append_assoc]
        rfl

theorem innerName?_eq_some {marker specifier inner : String}
    (h : innerName? marker specifier = some inner) :
    ∃ front, specifier.toList = front ++ marker.toList ++ inner.toList ∧
      (front = [] ∨ ∃ rest, front = rest ++ ['/']) := by
  obtain ⟨cs, hcs, rfl⟩ := Option.map_eq_some_iff.mp h
  obtain ⟨front, heq, hfront⟩ := afterMarker_eq_some hcs
  refine ⟨front, ?_, hfront⟩
  rwa [List.reverse_reverse, List.append_nil, ← String.toList_ofList (l := cs)] at heq

/-- A name that lacks a character of the marker has no inner name. -/
theorem innerName?_eq_none {marker specifier : String} {c : Char} (hmarker : c ∈ marker.toList)
    (hspecifier : c ∉ specifier.toList) : innerName? marker specifier = none := by
  rcases h : innerName? marker specifier with _ | inner
  · rfl
  · obtain ⟨front, heq, -⟩ := innerName?_eq_some h
    rw [heq] at hspecifier
    exact absurd (List.mem_append_left _ (List.mem_append_right _ hmarker)) hspecifier

/-! ### Packaged resources in memory -/

/-- All packaged resources are held in memory. -/
def InMemory (space : ResourceSpace) : Prop :=
  ∀ provider ∈ space.providers, ∃ files, provider = .memory files

/-- The resources that are held in memory. -/
def memoryFiles (space : ResourceSpace) : List (String × ByteArray) :=
  space.providers.flatMap fun
    | .memory files => files
    | _ => []

variable {env : Environment}

/-- The text is that of some file of the archive or of some resource in memory. -/
def Holds (env : Environment) (text : String) : Prop :=
  (∃ path, (path, text) ∈ env.archive.files) ∨
    ∃ name bytes, (name, bytes) ∈ memoryFiles env.resources ∧ Text.Utf8.decode bytes = .ok text

theorem openName_mem {space : ResourceSpace} (hmemory : InMemory space) {files : FileTree}
    {name : String} {body : Body} (h : space.openName files name = .ok (some body)) :
    (name, body.bytes) ∈ memoryFiles space := by
  obtain ⟨before, provider, after, hproviders, hopens, -⟩ :=
    (ResourceSpace.openName_eq_some_iff files name).mp h
  have hmem : provider ∈ space.providers := by
    rw [hproviders]
    exact List.mem_append_right _ List.mem_cons_self
  obtain ⟨entries, rfl⟩ := hmemory provider hmem
  obtain ⟨bytes, hlookup, rfl⟩ := Option.map_eq_some_iff.mp (Except.ok.inj hopens)
  exact List.mem_flatMap.mpr ⟨_, hmem, mem_of_lookup hlookup⟩

theorem ofBody_eq_ok {identity : String} {body : Body} {artifact : Artifact}
    (h : Artifact.ofBody identity body = .ok artifact) :
    artifact.uri = identity ∧ Text.Utf8.decode body.bytes = .ok artifact.contents := by
  unfold Artifact.ofBody at h
  rcases hfailure : body.failure with _ | cause
  · rcases hdecode : Text.Utf8.decode body.bytes with fault | contents
    · simp only [hfailure, hdecode] at h
      cases h
    · simp only [hfailure, hdecode] at h
      cases h
      exact ⟨rfl, rfl⟩
  · simp only [hfailure] at h
    cases h

/-- A packaged resource that is opened is one of those in memory, and known by the identity it
was opened as. -/
theorem openResource_mem (hmemory : InMemory env.resources) {name identity : String}
    {artifact : Artifact} (h : openResource env name identity = .ok (some artifact)) :
    artifact.uri = identity ∧ Holds env artifact.contents ∧
      ∃ bytes, (name, bytes) ∈ memoryFiles env.resources := by
  unfold openResource at h
  rcases hopen : env.resources.openName env.files name with e | _ | body
  · rw [hopen] at h
    cases h
  · rw [hopen] at h
    cases h
  · rw [hopen] at h
    have hmem := openName_mem hmemory hopen
    rcases hbody : Artifact.ofBody identity body with e | found
    · simp only [hbody] at h
      cases h
    · simp only [hbody] at h
      cases h
      obtain ⟨huri, hdecode⟩ := ofBody_eq_ok hbody
      exact ⟨huri, Or.inr ⟨name, body.bytes, hmem, hdecode⟩, body.bytes, hmem⟩

/-! ### What a plain name finds -/

/-- What is found is what one of the candidates gives. -/
theorem firstOf_mem {artifact : Artifact} :
    ∀ (candidates : List (Unit → Except LoadError (Option Artifact))) (held : Option LoadError),
      firstOf held candidates = .ok (some artifact) →
      ∃ candidate ∈ candidates, candidate () = .ok (some artifact) := by
  intro candidates
  induction candidates with
  | nil =>
      intro held h
      rcases held with _ | e <;> cases h
  | cons candidate rest ih =>
      intro held h
      have hrest : ∀ held, firstOf held rest = .ok (some artifact) →
          ∃ candidate' ∈ candidate :: rest, candidate' () = .ok (some artifact) := by
        intro held h
        obtain ⟨found, hmem, hfound⟩ := ih held h
        exact ⟨found, List.mem_cons_of_mem _ hmem, hfound⟩
      rcases hcandidate : candidate () with e | _ | other
      · rw [firstOf, hcandidate] at h
        exact hrest _ h
      · rw [firstOf, hcandidate] at h
        exact hrest _ h
      · rw [firstOf, hcandidate] at h
        exact ⟨candidate, List.mem_cons_self, hcandidate.trans h⟩

theorem looksLikeUrl_of_plain {name : String} (h : ':' ∉ name.toList) :
    Reference.looksLikeUrl name = false := by
  unfold Reference.looksLikeUrl Reference.looksLikeUrlChars
  rw [cut?_eq_none_iff.mpr h]

/-- Where a module with a plain name is found: in the archive, or among the packaged resources
under a name that ends in the name or in what follows its last dependency directory. -/
theorem search_plain (hmemory : InMemory env.resources) {name : String} {artifact : Artifact}
    (hcolon : ':' ∉ name.toList) (h : search env name = .ok (some artifact)) :
    artifact.uri = name ∧ Holds env artifact.contents ∧
      (Archive.normalForm name ∈ env.archive.paths ∨
        ∃ resource bytes, (resource, bytes) ∈ memoryFiles env.resources ∧
          (name.length ≤ resource.length ∨
            ∃ inner, innerName? env.settings.dependencyMarker name = some inner ∧
              inner.length ≤ resource.length)) := by
  unfold search at h
  rcases hfile : env.archive.findFile name with _ | contents
  · simp only [hfile] at h
    obtain ⟨candidate, hmem, hfound⟩ := firstOf_mem _ none h
    unfold candidates at hmem
    simp only [List.mem_append, List.mem_map, List.mem_cons, List.not_mem_nil, or_false,
      Option.mem_toList] at hmem
    rcases hmem with (⟨inner, hinner, rfl⟩ | ⟨root, -, rfl⟩) | rfl | rfl
    · obtain ⟨huri, hholds, bytes, hresource⟩ := openResource_mem hmemory hfound
      exact ⟨huri, hholds, Or.inr
        ⟨inner, bytes, hresource, Or.inr ⟨inner, hinner, Nat.le_refl _⟩⟩⟩
    · obtain ⟨huri, hholds, bytes, hresource⟩ := openResource_mem hmemory hfound
      refine ⟨huri, hholds, Or.inr ⟨_, bytes, hresource, ?_⟩⟩
      rw [String.length_append]
      rcases hinner : innerName? env.settings.dependencyMarker name with _ | inner
      · exact Or.inl (Nat.le_add_left _ _)
      · exact Or.inr ⟨inner, rfl, Nat.le_add_left _ _⟩
    · unfold openAsUrl at hfound
      rw [looksLikeUrl_of_plain hcolon, if_neg Bool.false_ne_true] at hfound
      cases hfound
    · obtain ⟨huri, hholds, bytes, hresource⟩ := openResource_mem hmemory hfound
      exact ⟨huri, hholds, Or.inr ⟨name, bytes, hresource, Or.inl (Nat.le_refl _)⟩⟩
  · simp only [hfile] at h
    cases h
    have hmem := mem_of_lookup hfile
    exact ⟨rfl, Or.inl ⟨_, hmem⟩, Or.inl (List.mem_map_of_mem hmem)⟩

/-! ### What is not there -/

theorem firstOf_nothing :
    ∀ candidates : List (Unit → Except LoadError (Option Artifact)),
      (∀ candidate ∈ candidates, candidate () = .ok none) → firstOf none candidates = .ok none := by
  intro candidates
  induction candidates with
  | nil => intro _; rfl
  | cons candidate rest ih =>
      intro h
      rw [firstOf, h candidate List.mem_cons_self]
      exact ih fun other hother => h other (List.mem_cons_of_mem _ hother)

/-- Without packaged resources a plain name means a file of the archive or nothing. -/
theorem search_absent {name : String} (hfile : env.archive.findFile name = none)
    (hspace : env.resources.providers = []) (hcolon : ':' ∉ name.toList) :
    search env name = .ok none := by
  have hresource : ∀ resource identity, openResource env resource identity = .ok none := by
    intro resource identity
    unfold openResource ResourceSpace.openName
    rw [hspace]
    rfl
  unfold search
  rw [hfile]
  refine firstOf_nothing _ ?_
  intro candidate hmem
  unfold candidates at hmem
  simp only [List.mem_append, List.mem_map, List.mem_cons, List.not_mem_nil, or_false] at hmem
  rcases hmem with (⟨inner, -, rfl⟩ | ⟨root, -, rfl⟩) | rfl | rfl
  · exact hresource _ _
  · exact hresource _ _
  · unfold openAsUrl
    rw [looksLikeUrl_of_plain hcolon]
    rfl
  · exact hresource _ _

/-! ### Normalized names in the archive

Bringing a normalized path without backslashes into the form of the archive takes off no more
than the slash at its end.
-/

theorem length_le_dropSlashes {path : List Char} (h : ∀ front, path ≠ front ++ ['/', '/']) :
    path.length ≤ (Archive.dropSlashes path).length + 1 := by
  unfold Archive.dropSlashes
  rw [List.length_reverse]
  rcases hreverse : path.reverse with _ | ⟨c, rest⟩
  · rw [List.reverse_eq_nil_iff.mp hreverse]
    exact Nat.zero_le _
  · have hpath : path = rest.reverse ++ [c] := by
      rw [← List.reverse_reverse path, hreverse, List.reverse_cons]
    have hlength : path.length = rest.length + 1 := by rw [hpath]; simp
    by_cases hc : c = '/'
    · rcases rest with _ | ⟨d, rest⟩
      · rw [hlength]
        exact Nat.le_add_left _ _
      · have hd : d ≠ '/' := by
          intro hd
          refine h rest.reverse ?_
          rw [hpath, hc, hd]
          simp
        simp [hlength, hc, hd]
    · simp [hlength, hc]

theorem normalizeChars_ne_dot (path rest : List Char) :
    Path.normalizeChars path ≠ '.' :: '/' :: rest := by
  intro h
  have hsplit : split '/' ('.' :: '/' :: rest) = ['.'] :: split '/' rest :=
    split_append_sep '/' ['.'] rest
  refine (Path.normalized_normalizeChars path).noDot ?_
  rw [h, hsplit]
  exact List.mem_cons_self

theorem normalizeChars_ne_slashes (path front : List Char) :
    Path.normalizeChars path ≠ front ++ ['/', '/'] := by
  intro h
  have hsplit : split '/' (front ++ ['/', '/']) = split '/' front ++ [[], []] :=
    split_append_sep '/' front ['/']
  refine (Path.normalized_normalizeChars path).inner ?_
  rw [h, hsplit, List.tail_append_of_ne_nil (split_ne_nil '/' front),
    List.dropLast_append_of_ne_nil (List.cons_ne_nil _ _)]
  exact List.mem_append_right _ List.mem_cons_self

theorem length_le_normalForm {path : List Char} (h : '\\' ∉ Path.normalizeChars path) :
    (Path.normalizeChars path).length
      ≤ (Archive.normalForm (String.ofList (Path.normalizeChars path))).length + 1 := by
  unfold Archive.normalForm
  rw [String.toList_ofList, Archive.toSlashes_of_plain h,
    Archive.dropDots_eq_self (normalizeChars_ne_dot path), String.length_ofList]
  exact length_le_dropSlashes (normalizeChars_ne_slashes path)

/-- **A plain target that is found is not much longer than its stem**: what follows its last
dependency directory, or all of it, is no longer than some path of the archive or some name of
a resource. -/
theorem length_le_of_search (hmemory : InMemory env.resources) {name : Path.Segment}
    (hmarker : env.settings.dependencyMarker.toList = name ++ ['/']) (hname : name ≠ [])
    (hslash : '/' ∉ name) {room : Nat} (hpaths : ∀ p ∈ env.archive.paths, p.length ≤ room)
    (hresources : ∀ r ∈ memoryFiles env.resources, r.1.length ≤ room) {path : List Char}
    {artifact : Artifact} (hcolon : ':' ∉ Path.normalizeChars path)
    (hbackslash : '\\' ∉ Path.normalizeChars path)
    (h : search env (String.ofList (Path.normalizeChars path)) = .ok (some artifact)) :
    (Path.normalizeChars path).length
      ≤ Path.weight (Path.stem name (Path.normalizeChars path)) + 1 + room := by
  rw [← String.toList_ofList (l := Path.normalizeChars path)] at hcolon
  obtain ⟨-, -, hpath | ⟨resource, bytes, hresource, hwhole | ⟨inner, hinner, hle⟩⟩⟩ :=
    search_plain hmemory hcolon h
  · have hroom := hpaths _ hpath
    have hform := length_le_normalForm hbackslash
    omega
  · have hroom : resource.length ≤ room := hresources _ hresource
    rw [String.length_ofList] at hwhole
    omega
  · have hroom : resource.length ≤ room := hresources _ hresource
    obtain ⟨front, heq, hfront⟩ := innerName?_eq_some hinner
    rw [String.toList_ofList, hmarker] at heq
    have hstem := Path.length_le_of_marker hname hslash heq hfront
    have hlength := congrArg List.length heq
    rw [List.length_append, String.length_toList] at hlength
    omega

end Search

end ModuleLoader
