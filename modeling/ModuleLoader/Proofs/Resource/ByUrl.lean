/-
Packaged resources by name and by URL.

A resource is opened by the text of its name, and a URL names a resource by its path as it is
written.  So the URL of a name opens the resource of the written name (`openText_named`), which is
another resource if there is anything in the name that a path encodes: the same contents are found
by URL and by name, among all resources, if and only if the name is written as it stands
(`openText_resourceUrl`).
-/
import ModuleLoader.Proofs.Search.Candidates
import ModuleLoader.Proofs.Search.Served
import ModuleLoader.Proofs.Url.Encoded

namespace ModuleLoader.ByUrl

open Search (ReadsTo readAs readAs_of_readsTo resourceUrl)
open Text

/-- The name of a resource as a URL writes it. -/
def writtenName (name : String) : String := String.ofList (Percent.encode Percent.path name.toList)

theorem writtenName_eq_self_iff {name : String} :
    writtenName name = name ↔ ∀ c ∈ name.toList, Percent.Kept Percent.path c := by
  unfold writtenName
  rw [← Percent.encode_eq_self_iff, ← String.toList_inj, String.toList_ofList]

/-! ### Results by URL and by name -/

/-- What the module at a URL comes to when this is what opening its resource gives. -/
def asModule (url : String) : Except IoError (Option Body) → Except LoadError (Option Artifact)
  | .ok (some body) => readAs url body
  | .ok none => .ok none
  | .error cause => .error (.io url cause)

/-- The same contents are found by URL and by name, or there are none under either. -/
structure SameContents (byUrl : Except LoadError (Option Artifact))
    (byName : Except IoError (Option Body)) : Prop where
  absent : byUrl = .ok none ↔ byName = .ok none
  contents : ∀ text, (∃ uri, byUrl = .ok (some ⟨uri, text⟩)) ↔
    ∃ body, byName = .ok (some body) ∧ ReadsTo body text

theorem readAs_cases (url : String) (body : Body) :
    (∃ text, ReadsTo body text ∧ readAs url body = .ok (some ⟨url, text⟩)) ∨
      ((∀ text, ¬ ReadsTo body text) ∧ ∃ e, readAs url body = .error e) := by
  rcases hfailure : body.failure with _ | cause
  · rcases hdecode : Utf8.decode body.bytes with fault | text
    · refine Or.inr ⟨fun text hreads => ?_, .io url (.illFormedText fault), ?_⟩
      · rw [hreads.2] at hdecode
        cases hdecode
      · unfold readAs Artifact.ofBody
        simp only [hfailure, hdecode]
        rfl
    · have hreads : ReadsTo body text := ⟨hfailure, hdecode⟩
      exact Or.inl ⟨text, hreads, readAs_of_readsTo hreads⟩
  · refine Or.inr ⟨fun text hreads => ?_, .io url cause, ?_⟩
    · rw [hreads.1] at hfailure
      cases hfailure
    · unfold readAs Artifact.ofBody
      simp only [hfailure]
      rfl

/-- A module has the contents of its resource. -/
theorem sameContents_asModule (url : String) (result : Except IoError (Option Body)) :
    SameContents (asModule url result) result := by
  rcases result with cause | _ | body
  · exact ⟨by simp [asModule], fun text => by simp [asModule]⟩
  · exact ⟨by simp [asModule], fun text => by simp [asModule]⟩
  · have hmodule : asModule url (.ok (some body)) = readAs url body := rfl
    rw [hmodule]
    rcases readAs_cases url body with ⟨held, hreads, hread⟩ | ⟨hnot, e, hread⟩
    · rw [hread]
      refine ⟨by simp, fun text => ?_⟩
      constructor
      · rintro ⟨uri, heq⟩
        cases heq
        exact ⟨body, rfl, hreads⟩
      · rintro ⟨other, hbody, hother⟩
        cases hbody
        have htext : held = text := Except.ok.inj (hreads.2.symm.trans hother.2)
        exact ⟨url, by rw [htext]⟩
    · rw [hread]
      refine ⟨by simp, fun text => ?_⟩
      constructor
      · rintro ⟨uri, heq⟩
        cases heq
      · rintro ⟨other, hbody, hother⟩
        cases hbody
        exact absurd hother (hnot text)

/-! ### Names behind a scheme -/

section Named

variable {scheme name : String} (hscheme : Url.IsGeneric scheme.toList)
  (hname : Url.Named name.toList)

include hscheme hname

/-- The URL of a name opens the resource of the written name. -/
theorem openText_named (files : FileTree) (resources : ResourceSpace) :
    openText files scheme resources (resourceUrl scheme name)
      = asModule (resourceUrl scheme (writtenName name))
          (resources.openName files (writtenName name)) := by
  have hparse := Url.parse_named hscheme hname
  rw [← Search.resourceUrl_eq] at hparse
  have hne : Url.writtenSegments name.toList ≠ [] := by
    simp [Url.writtenSegments, split_ne_nil]
  have hresource : (Url.rooted scheme.toList (Url.writtenSegments name.toList)).resourceName
      = writtenName name := by
    rw [Search.resourceName_eq_join hne, Url.join_writtenSegments]
    · rfl
    · rw [Url.join_writtenSegments]
      exact Percent.encode_ne_cons (by decide) hname.ne_slash
  have htext : (Url.rooted scheme.toList (Url.writtenSegments name.toList)).text
      = resourceUrl scheme (writtenName name) := by
    unfold Url.text
    rw [Url.chars_named hname, Search.resourceUrl_eq]
    unfold writtenName
    rw [String.toList_ofList]
  have hfile : ¬ scheme.toList = "file".toList := by
    intro hfile
    have hgeneric := hscheme.generic
    rw [hfile] at hgeneric
    cases hgeneric
  unfold openText
  simp only [hparse]
  unfold openUrl
  rw [if_neg (show ¬ (Url.rooted scheme.toList _).scheme = "file".toList from hfile),
    if_pos (show (Url.rooted scheme.toList _).scheme = scheme.toList from rfl)]
  unfold openResource
  rw [hresource, htext]
  rcases resources.openName files (writtenName name) with cause | _ | body <;> rfl

/-- **Which resources are found by URL as they are by name.**  Whatever files and resources there
are, the URL of a name opens the resource of the written name, and is known by that.  This finds the
same contents as the name itself, among all resources, if and only if every character of the name
is written as it stands. -/
theorem openText_resourceUrl :
    (∀ files resources, openText files scheme resources (resourceUrl scheme name)
      = asModule (resourceUrl scheme (writtenName name))
          (resources.openName files (writtenName name))) ∧
    ((∀ files resources, SameContents
        (openText files scheme resources (resourceUrl scheme name))
        (resources.openName files name)) ↔
      ∀ c ∈ name.toList, Percent.Kept Percent.path c) := by
  refine ⟨openText_named hscheme hname, ?_⟩
  rw [← writtenName_eq_self_iff]
  constructor
  · intro hsame
    by_contra hne
    -- A resource of the name alone is not the one that the URL opens.
    have hlack := (hsame {} ⟨[.memory [(name, ByteArray.empty)]]⟩).absent
    rw [openText_named hscheme hname] at hlack
    have hother : (writtenName name == name) = false := beq_eq_false_iff_ne.mpr hne
    have habsent : (ResourceSpace.mk [.memory [(name, ByteArray.empty)]]).openName {}
        (writtenName name) = .ok none := by
      simp [ResourceSpace.openName, ResourceSpace.openFrom, Provider.openName, List.lookup_cons, hother]
    have hpresent : (ResourceSpace.mk [.memory [(name, ByteArray.empty)]]).openName {} name
        = .ok (some ⟨ByteArray.empty, none⟩) := by
      simp [ResourceSpace.openName, ResourceSpace.openFrom, Provider.openName]
    rw [habsent, hpresent] at hlack
    exact absurd (hlack.mp rfl) (by simp)
  · intro hself files resources
    rw [openText_named hscheme hname, hself]
    exact sameContents_asModule _ _

end Named

/-- A packaged module with a blank in its name. -/
def blankNamed : ResourceSpace := ⟨[.memory [("lib/my file.js", "x".toUTF8)]]⟩

theorem isGeneric_classpath : Url.IsGeneric "classpath".toList :=
  ⟨⟨⟨by decide, by decide⟩, by simp⟩, by decide⟩

theorem named_blankNamed : Url.Named "lib/my file.js".toList := by decide

/-- The module is not found by its URL. -/
theorem openText_blankNamed :
    blankNamed.openName {} "lib/my file.js" = .ok (some ⟨"x".toUTF8, none⟩) ∧
      openText {} "classpath" blankNamed "classpath:/lib/my file.js" = .ok none := by
  refine ⟨rfl, ?_⟩
  have hopen := openText_named isGeneric_classpath named_blankNamed {} blankNamed
  have hurl : resourceUrl "classpath" "lib/my file.js" = "classpath:/lib/my file.js" := by decide
  have hwritten : writtenName "lib/my file.js" = "lib/my%20file.js" := by decide
  rw [hurl, hwritten] at hopen
  exact hopen

/-- What the URL of that module opens instead. -/
theorem openText_resourceUrl_blank :
    Url.IsGeneric "classpath".toList ∧ Url.Named "lib/my file.js".toList ∧
      (∀ files resources, openText files "classpath" resources
          (resourceUrl "classpath" "lib/my file.js")
        = asModule (resourceUrl "classpath" (writtenName "lib/my file.js"))
            (resources.openName files (writtenName "lib/my file.js"))) ∧
      ((∀ files resources, SameContents
          (openText files "classpath" resources (resourceUrl "classpath" "lib/my file.js"))
          (resources.openName files "lib/my file.js")) ↔
        ∀ c ∈ "lib/my file.js".toList, Percent.Kept Percent.path c) :=
  ⟨isGeneric_classpath, named_blankNamed,
    openText_resourceUrl isGeneric_classpath named_blankNamed⟩

end ModuleLoader.ByUrl
