/-
Several that are asked for one thing.

Each of those that are asked has the thing, lacks it, or fails.  The verdict on their answers looks
through them twice: the first that has the thing settles it, whatever failed before; if there is
none, the first failure does.  A loop that goes through the answers once and holds back the first
failure on its way comes to the same verdict, because a failure in hand is like one more answer in
front of all others (`verdict_held_found`, `verdict_held_failed`).

Providers of packaged resources are asked for a name in this way (`openName_eq_verdict`).  So the
first of them that opens the name is the one that is read, whatever the others answer
(`openName_eq_some_iff`).
-/
import ModuleLoader.Resource.Provider

namespace ModuleLoader

section Verdict

variable {ε α : Type}

/-- What an answer has. -/
def found? : Except ε (Option α) → Option α
  | .ok found => found
  | .error _ => none

/-- Why an answer fails. -/
def failure? : Except ε (Option α) → Option ε
  | .ok _ => none
  | .error e => some e

/-- The verdict on answers in order of precedence: the first thing that is found; if there is none,
the first failure; and nothing if there is none of that either. -/
def verdict (answers : List (Except ε (Option α))) : Except ε (Option α) :=
  match answers.findSome? found?, answers.findSome? failure? with
  | some a, _ => .ok (some a)
  | none, some e => .error e
  | none, none => .ok none

theorem found?_eq_some_iff {answer : Except ε (Option α)} {a : α} :
    found? answer = some a ↔ answer = .ok (some a) := by
  rcases answer with e | _ | b <;> simp [found?]

theorem found?_eq_none_iff {answer : Except ε (Option α)} :
    found? answer = none ↔ answer = .ok none ∨ ∃ e, answer = .error e := by
  rcases answer with e | _ | b <;> simp [found?]

theorem verdict_eq_some_iff {answers : List (Except ε (Option α))} {a : α} :
    verdict answers = .ok (some a) ↔ answers.findSome? found? = some a := by
  unfold verdict
  rcases answers.findSome? found? with _ | b
  · rcases answers.findSome? failure? with _ | e <;> simp
  · simp

/-- Where nothing is found, nothing is found first. -/
theorem findSome?_found?_eq_none {answers : List (Except ε (Option α))}
    (h : ∀ a, .ok (some a) ∉ answers) : answers.findSome? found? = none := by
  refine List.findSome?_eq_none_iff.mpr fun answer hanswer => ?_
  rcases answer with e | _ | a
  · rfl
  · rfl
  · exact absurd hanswer (h a)

/-- What is found first is the verdict, whatever fails before it. -/
theorem verdict_of_found {before after : List (Except ε (Option α))} {a : α}
    (h : ∀ b, .ok (some b) ∉ before) : verdict (before ++ .ok (some a) :: after) = .ok (some a) := by
  rw [verdict_eq_some_iff, List.findSome?_append, findSome?_found?_eq_none h]
  rfl

/-- Those who lack the thing have no say. -/
theorem verdict_absent (before after : List (Except ε (Option α))) :
    verdict (before ++ .ok none :: after) = verdict (before ++ after) := by
  unfold verdict
  simp only [List.findSome?_append]
  rfl

/-! ### A failure in hand -/

variable (held : Option ε) (answers : List (Except ε (Option α)))

/-- A failure in hand, as an answer. -/
def heldAnswers : List (Except ε (Option α)) := held.toList.map .error

theorem findSome?_found?_held : (heldAnswers held ++ answers).findSome? found?
    = answers.findSome? found? := by
  cases held with
  | none => rfl
  | some e => rfl

theorem findSome?_failure?_held : (heldAnswers held ++ answers).findSome? failure?
    = held.or (answers.findSome? failure?) := by
  cases held with
  | none => rfl
  | some e => rfl

theorem verdict_held_found (a : α) :
    verdict (heldAnswers held ++ .ok (some a) :: answers) = .ok (some a) := by
  unfold verdict
  simp only [findSome?_found?_held]
  rfl

/-- The failure that comes first is the one that is held on to. -/
theorem verdict_held_failed (e : ε) :
    verdict (heldAnswers held ++ .error e :: answers)
      = verdict (heldAnswers (some (held.getD e)) ++ answers) := by
  unfold verdict
  simp only [findSome?_found?_held, findSome?_failure?_held]
  cases held with
  | none => rfl
  | some first => rfl

end Verdict

namespace ResourceSpace

variable (tree : FileTree) (name : String)

/-- What the providers reply when each of them is asked for a name. -/
def replies (space : ResourceSpace) : List (Except IoError (Option Body)) :=
  space.providers.map (Provider.openName tree name)

theorem openFrom_eq_verdict (providers : List Provider) : ∀ held : Option IoError,
    openFrom tree name held providers
      = verdict (heldAnswers held ++ providers.map (Provider.openName tree name)) := by
  induction providers with
  | nil =>
      intro held
      cases held with
      | none => rfl
      | some e => rfl
  | cons provider rest ih =>
      intro held
      rw [openFrom, List.map_cons]
      rcases Provider.openName tree name provider with e | _ | body
      · rw [verdict_held_failed]
        exact ih _
      · rw [verdict_absent]
        exact ih _
      · rw [verdict_held_found]

/-- **A name opens to the verdict on what the providers reply.** -/
theorem openName_eq_verdict (space : ResourceSpace) :
    space.openName tree name = verdict (space.replies tree name) :=
  openFrom_eq_verdict tree name space.providers none

/-- A provider opens the name, and those before it lack it or fail to open it. -/
def OpensFirst (space : ResourceSpace) (body : Body) : Prop :=
  ∃ before provider after, space.providers = before ++ provider :: after ∧
    provider.openName tree name = .ok (some body) ∧
    ∀ other ∈ before, other.openName tree name = .ok none ∨ ∃ e, other.openName tree name = .error e

theorem openName_eq_some_iff {space : ResourceSpace} {body : Body} :
    space.openName tree name = .ok (some body) ↔ OpensFirst tree name space body := by
  rw [openName_eq_verdict, verdict_eq_some_iff]
  unfold replies OpensFirst
  rw [List.findSome?_map, List.findSome?_eq_some_iff]
  constructor
  · rintro ⟨before, provider, after, heq, hopens, hbefore⟩
    refine ⟨before, provider, after, heq, found?_eq_some_iff.mp hopens, ?_⟩
    intro other hother
    exact found?_eq_none_iff.mp (hbefore other hother)
  · rintro ⟨before, provider, after, heq, hopens, hbefore⟩
    refine ⟨before, provider, after, heq, found?_eq_some_iff.mpr hopens, ?_⟩
    intro other hother
    exact found?_eq_none_iff.mpr (hbefore other hother)

end ResourceSpace

end ModuleLoader
