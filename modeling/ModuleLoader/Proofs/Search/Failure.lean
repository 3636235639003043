/-
Failures to read, and what is found in spite of them.

A name is looked up in several places (`places`), and a relative reference is found in one of
several ways (`ways`): against its base, in the running module, by its text.  One rule could
serve for both: a failure to read hides nothing that comes after it, and it is reported only if
nothing is found, and then it is the first one (`HoldsBack`).

The places follow the rule (`search_holdsBack`).  The ways do not: the first of them that finds
something or fails is the answer (`findIn_eq_firstAnswer`).  So a base that cannot be read hides
what the running module or the text would lead to, and what cannot be read in the running module
hides what the text would (`Hidden`); where neither happens the ways follow the rule as well
(`findIn_holdsBack_iff`).
-/
import ModuleLoader.Proofs.Resource
import ModuleLoader.Proofs.Search.Entries

namespace ModuleLoader.Search

open OnDemand (Request)

/-! ### Answers in turn -/

/-- Either all have the property, or there is a first that does not. -/
theorem all_or_first {β : Type} (P : β → Prop) (xs : List β) :
    (∀ x ∈ xs, P x) ∨ ∃ before x after, xs = before ++ x :: after ∧ (∀ y ∈ before, P y) ∧ ¬ P x := by
  induction xs with
  | nil => exact Or.inl nofun
  | cons first rest ih =>
      by_cases hfirst : P first
      · rcases ih with hrest | ⟨before, x, after, rfl, hbefore, hx⟩
        · exact Or.inl (List.forall_mem_cons.mpr ⟨hfirst, hrest⟩)
        · exact Or.inr ⟨first :: before, x, after, rfl,
            List.forall_mem_cons.mpr ⟨hfirst, hbefore⟩, hx⟩
      · exact Or.inr ⟨[], first, rest, rfl, nofun, hfirst⟩

section Answers

variable {α : Type} {answers : List (Except LoadError (Option α))}

/-- Nothing is found, or what there is cannot be read. -/
inductive Passed : Except LoadError (Option α) → Prop
  | absent : Passed (.ok none)
  | unread (e : LoadError) (hio : e.isIo = true) : Passed (.error e)

/-- The failure `e` comes before anything is found, and `after` comes after it. -/
def FailsFirst (answers : List (Except LoadError (Option α))) (e : LoadError)
    (after : List (Except LoadError (Option α))) : Prop :=
  ∃ before, answers = before ++ .error e :: after ∧ ∀ answer ∈ before, answer = .ok none

/-- What comes of some answers if failures to read are held back. -/
structure HoldsBack (answers : List (Except LoadError (Option α)))
    (outcome : Except LoadError (Option α)) : Prop where
  /-- What is found comes out of it, whatever could not be read before. -/
  found : ∀ before a after, answers = before ++ .ok (some a) :: after →
    (∀ answer ∈ before, Passed answer) → outcome = .ok (some a)
  /-- A failure to read is reported only if nothing is found, and it is the first failure. -/
  failed : ∀ e, outcome = .error e → e.isIo = true →
    (∀ a, .ok (some a) ∉ answers) ∧ ∃ after, FailsFirst answers e after
  /-- Nothing comes out of it only if nothing fails. -/
  absent : outcome = .ok none ↔ ∀ answer ∈ answers, answer = .ok none

/-- The answer of the first that finds something or fails. -/
def firstAnswer : List (Except LoadError (Option α)) → Except LoadError (Option α)
  | [] => .ok none
  | .ok none :: rest => firstAnswer rest
  | .ok (some a) :: _ => .ok (some a)
  | .error e :: _ => .error e

theorem firstAnswer_append {before after : List (Except LoadError (Option α))}
    {answer : Except LoadError (Option α)} (hbefore : ∀ other ∈ before, other = .ok none)
    (hanswer : answer ≠ .ok none) : firstAnswer (before ++ answer :: after) = answer := by
  induction before with
  | nil =>
      rcases answer with e | _ | a
      · rfl
      · exact absurd rfl hanswer
      · rfl
  | cons first rest ih =>
      rw [hbefore first List.mem_cons_self]
      exact ih fun other hother => hbefore other (List.mem_cons_of_mem _ hother)

theorem firstAnswer_of_absent (h : ∀ answer ∈ answers, answer = .ok none) :
    firstAnswer answers = .ok none := by
  induction answers with
  | nil => rfl
  | cons first rest ih =>
      rw [h first List.mem_cons_self]
      exact ih fun other hother => h other (List.mem_cons_of_mem _ hother)

/-- Either nothing is found and nothing fails, or some answer is the first that is not so. -/
theorem absent_or_first (answers : List (Except LoadError (Option α))) :
    (∀ answer ∈ answers, answer = .ok none) ∨
      ∃ before answer after, answers = before ++ answer :: after ∧
        (∀ other ∈ before, other = .ok none) ∧ answer ≠ .ok none :=
  all_or_first (· = .ok none) answers

/-- Either nothing is found, or something is found first. -/
theorem lost_or_found (answers : List (Except LoadError (Option α))) :
    (∀ a, .ok (some a) ∉ answers) ∨
      ∃ before a after, answers = before ++ .ok (some a) :: after ∧
        ∀ b, .ok (some b) ∉ before := by
  rcases all_or_first (fun answer => ∀ a, answer ≠ .ok (some a)) answers with
    hlost | ⟨before, answer, after, rfl, hbefore, hanswer⟩
  · exact Or.inl fun a hmem => hlost _ hmem a rfl
  · obtain ⟨a, rfl⟩ : ∃ a, answer = .ok (some a) := by
      by_contra hnone
      exact hanswer fun a ha => hnone ⟨a, ha⟩
    exact Or.inr ⟨before, a, after, rfl, fun b hmem => hbefore _ hmem b rfl⟩

theorem firstAnswer_eq_none_iff :
    firstAnswer answers = .ok none ↔ ∀ answer ∈ answers, answer = .ok none := by
  refine ⟨fun h => ?_, firstAnswer_of_absent⟩
  rcases absent_or_first answers with habsent | ⟨before, answer, after, rfl, hbefore, hanswer⟩
  · exact habsent
  · rw [firstAnswer_append hbefore hanswer] at h
    exact absurd h hanswer

theorem firstAnswer_eq_error_iff {e : LoadError} :
    firstAnswer answers = .error e ↔ ∃ after, FailsFirst answers e after := by
  constructor
  · intro h
    rcases absent_or_first answers with habsent | ⟨before, answer, after, rfl, hbefore, hanswer⟩
    · rw [firstAnswer_of_absent habsent] at h
      cases h
    · rw [firstAnswer_append hbefore hanswer] at h
      exact ⟨after, before, by rw [h], hbefore⟩
  · rintro ⟨after, before, rfl, hbefore⟩
    exact firstAnswer_append hbefore nofun

/-- The verdict on answers that have nothing is the first failure. -/
theorem verdict_of_lost (h : ∀ a, .ok (some a) ∉ answers) : verdict answers = firstAnswer answers := by
  induction answers with
  | nil => rfl
  | cons first rest ih =>
      have hrest : ∀ a, .ok (some a) ∉ rest := fun a hmem => h a (List.mem_cons_of_mem _ hmem)
      rcases first with e | _ | a
      · have hnone : rest.findSome? found? = none := findSome?_found?_eq_none hrest
        unfold verdict
        simp only [List.findSome?_cons, found?, failure?, hnone]
        rfl
      · exact (verdict_absent [] rest).trans (ih hrest)
      · exact absurd List.mem_cons_self (h a)

/-- A failure to read comes first, and something is found after it. -/
def Hides (answers : List (Except LoadError (Option α))) (e : LoadError) : Prop :=
  e.isIo = true ∧ ∃ after a, FailsFirst answers e after ∧ .ok (some a) ∈ after

theorem failsFirst_cons_iff {first : Except LoadError (Option α)} {e : LoadError}
    {after : List (Except LoadError (Option α))} :
    FailsFirst (first :: answers) e after ↔
      (first = .error e ∧ answers = after) ∨ (first = .ok none ∧ FailsFirst answers e after) := by
  constructor
  · rintro ⟨before, heq, hbefore⟩
    rcases before with _ | ⟨other, before⟩
    · obtain ⟨hfirst, hrest⟩ := List.cons.inj heq
      exact Or.inl ⟨hfirst, hrest⟩
    · obtain ⟨rfl, hrest⟩ := List.cons.inj heq
      obtain ⟨hfirst, hbefore⟩ := List.forall_mem_cons.mp hbefore
      exact Or.inr ⟨hfirst, before, hrest, hbefore⟩
  · rintro (⟨rfl, rfl⟩ | ⟨rfl, before, rfl, hbefore⟩)
    · exact ⟨[], rfl, nofun⟩
    · exact ⟨.ok none :: before, rfl, List.forall_mem_cons.mpr ⟨rfl, hbefore⟩⟩

theorem hides_error_cons_iff {first e : LoadError} :
    Hides (.error first :: answers) e ↔
      e.isIo = true ∧ first = e ∧ ∃ a, .ok (some a) ∈ answers := by
  constructor
  · rintro ⟨hio, after, a, hfails, hmem⟩
    rcases failsFirst_cons_iff.mp hfails with ⟨heq, rfl⟩ | ⟨heq, -⟩
    · exact ⟨hio, Except.error.inj heq, a, hmem⟩
    · cases heq
  · rintro ⟨hio, rfl, a, hmem⟩
    exact ⟨hio, answers, a, failsFirst_cons_iff.mpr (Or.inl ⟨rfl, rfl⟩), hmem⟩

theorem hides_absent_cons_iff {e : LoadError} :
    Hides (.ok none :: answers) e ↔ Hides answers e := by
  constructor
  · rintro ⟨hio, after, a, hfails, hmem⟩
    rcases failsFirst_cons_iff.mp hfails with ⟨heq, -⟩ | ⟨-, hfails⟩
    · cases heq
    · exact ⟨hio, after, a, hfails, hmem⟩
  · rintro ⟨hio, after, a, hfails, hmem⟩
    exact ⟨hio, after, a, failsFirst_cons_iff.mpr (Or.inr ⟨rfl, hfails⟩), hmem⟩

theorem not_hides_found_cons {a : α} {e : LoadError} : ¬ Hides (.ok (some a) :: answers) e := by
  rintro ⟨-, after, other, hfails, -⟩
  rcases failsFirst_cons_iff.mp hfails with ⟨heq, -⟩ | ⟨heq, -⟩
  · cases heq
  · cases heq

/-- An answer that nothing comes after hides nothing. -/
theorem not_hides_singleton {answer : Except LoadError (Option α)} {e : LoadError} :
    ¬ Hides [answer] e := by
  rintro ⟨-, after, a, ⟨before, heq, -⟩, hmem⟩
  rcases before with _ | ⟨first, before⟩
  · rw [← (List.cons.inj heq).2] at hmem
    cases hmem
  · exact absurd (List.cons.inj heq).2.symm
      (List.append_ne_nil_of_right_ne_nil _ (List.cons_ne_nil _ _))

/-- **The first answer is what comes of holding failures back, if and only if none of them hides
anything.** -/
theorem firstAnswer_holdsBack_iff :
    HoldsBack answers (firstAnswer answers) ↔ ∀ e, ¬ Hides answers e := by
  constructor
  · rintro h e ⟨hio, after, a, hfails, hmem⟩
    obtain ⟨hnone, -⟩ := h.failed e (firstAnswer_eq_error_iff.mpr ⟨after, hfails⟩) hio
    obtain ⟨before, rfl, -⟩ := hfails
    exact hnone a (List.mem_append_right _ (List.mem_cons_of_mem _ hmem))
  · intro h
    refine ⟨?_, ?_, firstAnswer_eq_none_iff⟩
    · -- If what passes before is not all absent, the first failure in it hides what is found.
      rintro before a after rfl hbefore
      rcases absent_or_first before with habsent | ⟨front, answer, back, rfl, hfront, hanswer⟩
      · exact firstAnswer_append habsent nofun
      · cases hbefore answer (List.mem_append_right _ List.mem_cons_self) with
        | absent => exact absurd rfl hanswer
        | unread e hio =>
            refine absurd ⟨hio, back ++ .ok (some a) :: after, a, ⟨front, ?_, hfront⟩, ?_⟩ (h e)
            · rw [List.append_assoc, List.cons_append]
            · exact List.mem_append_right _ List.mem_cons_self
    · intro e houtcome hio
      obtain ⟨after, hfails⟩ := firstAnswer_eq_error_iff.mp houtcome
      refine ⟨fun a hmem => ?_, after, hfails⟩
      have hhides : .ok (some a) ∉ after := fun hafter => h e ⟨hio, after, a, hfails, hafter⟩
      obtain ⟨before, rfl, hbefore⟩ := hfails
      rcases List.mem_append.mp hmem with hmem | hmem
      · cases hbefore _ hmem
      · rcases List.mem_cons.mp hmem with heq | hmem
        · cases heq
        · exact hhides hmem

end Answers

/-! ### The places of a name -/

/-- What the candidates give. -/
def given (candidates : List (Unit → Except LoadError (Option Artifact))) :
    List (Except LoadError (Option Artifact)) := candidates.map fun candidate => candidate ()

/-- The archive, as the first candidate. -/
def archived (env : Environment) (name : String) : Unit → Except LoadError (Option Artifact) :=
  fun () => .ok ((env.archive.findFile name).map fun contents => ⟨name, contents⟩)

/-- The places that a name is looked up in, in order of precedence: the archive, and after it
the packaged resources and the URL that the name spells. -/
def places (env : Environment) (name : String) : List (Except LoadError (Option Artifact)) :=
  given (archived env name :: candidates env name)

section Candidates

variable {candidates : List (Unit → Except LoadError (Option Artifact))}

/-- The first candidate that is found, failing that the first failure, is the verdict. -/
theorem firstOf_eq_verdict : ∀ held : Option LoadError,
    firstOf held candidates = verdict (heldAnswers held ++ given candidates) := by
  induction candidates with
  | nil =>
      intro held
      cases held with
      | none => rfl
      | some e => rfl
  | cons candidate rest ih =>
      intro held
      have hgiven : given (candidate :: rest) = candidate () :: given rest := rfl
      rw [firstOf, hgiven]
      rcases candidate () with e | _ | a
      · rw [verdict_held_failed]
        exact ih _
      · rw [verdict_absent]
        exact ih _
      · rw [verdict_held_found]

/-- What is found first is the answer, whatever is held back. -/
theorem firstOf_of_found {a : Artifact} {before after : List (Except LoadError (Option Artifact))}
    {held : Option LoadError} (heq : given candidates = before ++ .ok (some a) :: after)
    (hbefore : ∀ b, .ok (some b) ∉ before) : firstOf held candidates = .ok (some a) := by
  rw [firstOf_eq_verdict, verdict_eq_some_iff, findSome?_found?_held, heq,
    ← verdict_eq_some_iff]
  exact verdict_of_found hbefore

/-- If nothing is found, the answer is the first failure. -/
theorem firstOf_of_lost (h : ∀ a, .ok (some a) ∉ given candidates) :
    firstOf none candidates = firstAnswer (given candidates) := by
  rw [firstOf_eq_verdict]
  exact verdict_of_lost h

/-- The failure that comes of candidates is the first one, and nothing is found. -/
theorem firstOf_eq_error_iff {e : LoadError} :
    firstOf none candidates = .error e ↔
      (∀ a, .ok (some a) ∉ given candidates) ∧ ∃ after, FailsFirst (given candidates) e after := by
  constructor
  · intro h
    rcases lost_or_found (given candidates) with hlost | ⟨before, a, after, heq, hbefore⟩
    · rw [firstOf_of_lost hlost] at h
      exact ⟨hlost, firstAnswer_eq_error_iff.mp h⟩
    · rw [firstOf_of_found heq hbefore] at h
      cases h
  · rintro ⟨hlost, hfails⟩
    rw [firstOf_of_lost hlost]
    exact firstAnswer_eq_error_iff.mpr hfails

theorem firstOf_holdsBack (candidates : List (Unit → Except LoadError (Option Artifact))) :
    HoldsBack (given candidates) (firstOf none candidates) := by
  refine ⟨?_, fun e herror _ => firstOf_eq_error_iff.mp herror, ?_⟩
  · intro before a after heq hbefore
    refine firstOf_of_found heq fun b hmem => ?_
    cases hbefore _ hmem
  · rcases lost_or_found (given candidates) with hlost | ⟨before, a, after, heq, hbefore⟩
    · rw [firstOf_of_lost hlost]
      exact firstAnswer_eq_none_iff
    · rw [firstOf_of_found heq hbefore]
      refine ⟨nofun, fun habsent => ?_⟩
      have hmem : .ok (some a) ∈ given candidates := by
        rw [heq]
        exact List.mem_append_right _ List.mem_cons_self
      cases habsent _ hmem

end Candidates

theorem search_eq_firstOf (env : Environment) (name : String) :
    search env name = firstOf none (archived env name :: candidates env name) := by
  unfold search
  rw [firstOf]
  unfold archived
  rcases env.archive.findFile name with _ | contents <;> rfl

/-- **The places hold failures back.** -/
theorem search_holdsBack (env : Environment) (name : String) :
    HoldsBack (places env name) (search env name) := by
  rw [search_eq_firstOf]
  exact firstOf_holdsBack _

/-- A name cannot be read if nothing is found in its places and one of them fails. -/
theorem search_eq_error_iff {env : Environment} {name : String} {e : LoadError} :
    search env name = .error e ↔
      (∀ a, .ok (some a) ∉ places env name) ∧ ∃ after, FailsFirst (places env name) e after := by
  rw [search_eq_firstOf]
  exact firstOf_eq_error_iff

/-! ### What fails is a reading -/

section Readings

variable {env : Environment} {e : LoadError}

theorem ofBody_isIo {uri : String} {body : Body}
    (h : (Artifact.ofBody uri body).map some = .error e) : e.isIo = true := by
  unfold Artifact.ofBody at h
  rcases hfailure : body.failure with _ | cause
  · rcases hdecode : Text.Utf8.decode body.bytes with fault | contents
    · simp only [hfailure, hdecode] at h
      cases h
      rfl
    · simp only [hfailure, hdecode] at h
      cases h
  · simp only [hfailure] at h
    cases h
    rfl

theorem openResource_isIo {name identity : String} (h : openResource env name identity = .error e) :
    e.isIo = true := by
  unfold openResource at h
  rcases hopen : env.resources.openName env.files name with cause | _ | body
  · rw [hopen] at h
    cases h
    rfl
  · rw [hopen] at h
    cases h
  · rw [hopen] at h
    exact ofBody_isIo h

/-- A URL that names no file of this machine is malformed; what else fails is a reading. -/
theorem openUrl_isIo {url : Url} (h : openUrl env url = .error e) :
    e.isIo = true ∨ ∃ cause, e = .malformed cause := by
  unfold openUrl ByUrl.openUrl at h
  split at h
  · unfold ByUrl.openFile at h
    split at h
    · cases h
      exact Or.inr ⟨_, rfl⟩
    · split at h
      · split at h
        · cases h
        · cases h
          exact Or.inl rfl
      · exact Or.inl (ofBody_isIo h)
      · cases h
        exact Or.inl rfl
  · split at h
    · unfold ByUrl.openResource at h
      split at h
      · exact Or.inl (ofBody_isIo h)
      · cases h
      · cases h
        exact Or.inl rfl
    · cases h

theorem openAsUrl_isIo {name : String} (h : openAsUrl env name = .error e) : e.isIo = true := by
  unfold openAsUrl at h
  split at h
  · split at h
    · cases h
    · split at h
      · cases h
      · rename_i hmalformed
        rcases openUrl_isIo h with hio | ⟨cause, rfl⟩
        · exact hio
        · exact absurd h (hmalformed cause)
  · cases h

/-- Keeping what a lookup answers with fails only if the lookup does. -/
theorem keeping_eq_error_iff {cache : RawCache} {key : String}
    {result : Except LoadError (Option Artifact)} :
    (keeping cache key result).1 = .error e ↔ result = .error e := by
  rcases result with other | _ | artifact
  · exact ⟨fun h => by rw [Except.error.inj h], fun h => by rw [Except.error.inj h]; rfl⟩
  · exact ⟨nofun, nofun⟩
  · exact ⟨nofun, nofun⟩

/-- A name that is looked up fails only if it cannot be read. -/
theorem search_isIo {name : String} (h : search env name = .error e) : e.isIo = true := by
  obtain ⟨-, after, before, heq, -⟩ := search_eq_error_iff.mp h
  have hmem : .error e ∈ places env name := by
    rw [heq]
    exact List.mem_append_right _ List.mem_cons_self
  obtain ⟨candidate, hcandidate, hfails⟩ := List.mem_map.mp hmem
  unfold candidates at hcandidate
  simp only [List.mem_append, List.mem_map, List.mem_cons, List.not_mem_nil, or_false]
    at hcandidate
  rcases hcandidate with rfl | (⟨inner, -, rfl⟩ | ⟨root, -, rfl⟩) | rfl | rfl
  · cases hfails
  · exact openResource_isIo hfails
  · exact openResource_isIo hfails
  · exact openAsUrl_isIo hfails
  · exact openResource_isIo hfails

end Readings

/-! ### The ways of a reference -/

/-- The ways to find a relative reference that has no base: in the running module, and by its
text. -/
def unbasedWays (env : Environment) (cache : RawCache) (specifier : String)
    (context : Option Artifact) : List Outcome :=
  (context.toList.map fun running => (findInContext env cache running specifier).1) ++
    [passing (search env specifier)]

/-- The ways to find a relative reference.  A base that is found is the only way; one that is
not is passed over, and one that cannot be read is a way that fails. -/
def ways (env : Environment) (cache : RawCache) (specifier : String) (base : Option String)
    (context : Option Artifact) : List Outcome :=
  match base with
  | none => unbasedWays env cache specifier context
  | some name =>
    match (findAlone env cache name).1 with
    | .error e => .error e :: unbasedWays env cache specifier context
    | .ok none => unbasedWays env cache specifier context
    | .ok (some found) =>
      [(findAgainst env (findAlone env cache name).2 found.artifact specifier).1]

/-- A failure to read hides a module that a later way leads to. -/
inductive Hidden (env : Environment) (cache : RawCache) (specifier : String)
    (base : Option String) (context : Option Artifact) (e : LoadError) : Prop
  /-- The base cannot be read, but the running module or the text leads to a module. -/
  | base (name : String) (found : Found) (hbase : base = some name)
      (hfails : (findAlone env cache name).1 = .error e)
      (hfound : .ok (some found) ∈ unbasedWays env cache specifier context)
  /-- What the reference means in the running module cannot be read, but the text leads to a
  module. -/
  | running (module artifact : Artifact)
      (hbase : ∀ name ∈ base, (findAlone env cache name).1 = .ok none)
      (hcontext : context = some module)
      (hfails : (findInContext env cache module specifier).1 = .error e)
      (hfound : search env specifier = .ok (some artifact))

section Ways

variable {env : Environment} {cache : RawCache} {specifier : String} {base : Option String}
  {context : Option Artifact}

/-- The text is the last way. -/
theorem firstAnswer_text :
    firstAnswer [passing (search env specifier)] = passing (search env specifier) := by
  rcases passing (search env specifier) with e | _ | found <;> rfl

theorem unbasedWays_some (module : Artifact) :
    unbasedWays env cache specifier (some module) =
      [(findInContext env cache module specifier).1, passing (search env specifier)] := rfl

theorem findUnbased_eq_firstAnswer :
    (findUnbased env cache specifier context).1
      = firstAnswer (unbasedWays env cache specifier context) := by
  rcases context with _ | module
  · exact firstAnswer_text.symm
  · rw [findUnbased_some, unbasedWays_some]
    rcases (findInContext env cache module specifier).1 with e | _ | found
    · rfl
    · exact firstAnswer_text.symm
    · rfl

/-- **The first way that finds something or fails is the answer.** -/
theorem findIn_eq_firstAnswer (hfree : cache.get? specifier = none)
    (hrel : Reference.isRelative specifier = true) :
    (findIn env cache specifier base context).1
      = firstAnswer (ways env cache specifier base context) := by
  rcases base with _ | name
  · rw [findIn_of_unbased hfree hrel]
    exact findUnbased_eq_firstAnswer
  · have hkeeps := findAlone_keeps env cache name
    rw [findIn_of_based hfree hrel]
    unfold ways
    simp only
    rcases hbase : (findAlone env cache name).1 with e | _ | found
    · rfl
    · simp only
      rw [hkeeps.adds.2 (by rw [hbase]; exact nofun)]
      exact findUnbased_eq_firstAnswer
    · simp only
      rcases (findAgainst env (findAlone env cache name).2 found.artifact specifier).1
        with e | _ | target <;> rfl

theorem found_mem_text_iff :
    (∃ found, Except.ok (some found) ∈ [passing (search env specifier)]) ↔
      ∃ artifact, search env specifier = .ok (some artifact) := by
  rcases search env specifier with e | _ | artifact <;> simp [passing, Except.map]

theorem hides_unbasedWays_iff {e : LoadError} :
    Hides (unbasedWays env cache specifier context) e ↔ e.isIo = true ∧
      ∃ module artifact, context = some module ∧
        (findInContext env cache module specifier).1 = .error e ∧
        search env specifier = .ok (some artifact) := by
  rcases context with _ | module
  · refine iff_of_false not_hides_singleton ?_
    rintro ⟨-, module, -, hcontext, -⟩
    cases hcontext
  · rw [unbasedWays_some]
    constructor
    · intro h
      rcases hcontext : (findInContext env cache module specifier).1 with first | _ | found
      · rw [hcontext, hides_error_cons_iff, found_mem_text_iff] at h
        obtain ⟨hio, rfl, artifact, hfound⟩ := h
        exact ⟨hio, module, artifact, rfl, hcontext, hfound⟩
      · rw [hcontext, hides_absent_cons_iff] at h
        exact absurd h not_hides_singleton
      · rw [hcontext] at h
        exact absurd h not_hides_found_cons
    · rintro ⟨hio, other, artifact, hmodule, hfails, hfound⟩
      obtain rfl := Option.some.inj hmodule
      rw [hfails, hides_error_cons_iff, found_mem_text_iff]
      exact ⟨hio, rfl, artifact, hfound⟩

/-- A failure hides something among the ways if it hides a module. -/
theorem hides_ways_iff {e : LoadError} :
    Hides (ways env cache specifier base context) e ↔
      e.isIo = true ∧ Hidden env cache specifier base context e := by
  have hunbased (hbase : ∀ name ∈ base, (findAlone env cache name).1 = .ok none) :
      Hides (unbasedWays env cache specifier context) e ↔
        e.isIo = true ∧ Hidden env cache specifier base context e := by
    rw [hides_unbasedWays_iff]
    refine and_congr_right fun _ => ⟨?_, fun h => ?_⟩
    · rintro ⟨module, artifact, hcontext, hfails, hfound⟩
      exact .running module artifact hbase hcontext hfails hfound
    · cases h with
      | base name found hname hfails _ =>
          cases (hbase name hname).symm.trans hfails
      | running module artifact _ hcontext hfails hfound =>
          exact ⟨module, artifact, hcontext, hfails, hfound⟩
  unfold ways
  rcases base with _ | name
  · exact hunbased nofun
  · simp only
    rcases hbase : (findAlone env cache name).1 with first | _ | found
    · simp only
      rw [hides_error_cons_iff]
      refine and_congr_right fun _ => ⟨?_, fun h => ?_⟩
      · rintro ⟨rfl, found, hfound⟩
        exact .base name found rfl hbase hfound
      · cases h with
        | base other found hname hfails hfound =>
            obtain rfl := Option.some.inj hname
            exact ⟨Except.error.inj (hbase.symm.trans hfails), found, hfound⟩
        | running module artifact hnone _ _ _ =>
            cases hbase.symm.trans (hnone name rfl)
    · refine hunbased fun other hother => ?_
      obtain rfl := Option.some.inj hother
      exact hbase
    · refine iff_of_false not_hides_singleton ?_
      rintro ⟨-, h⟩
      cases h with
      | base other found hname hfails hfound =>
          obtain rfl := Option.some.inj hname
          cases hbase.symm.trans hfails
      | running module artifact hnone _ _ _ =>
          cases hbase.symm.trans (hnone name rfl)

/-- Where a failure hides a module it is reported, and nothing is kept. -/
theorem findIn_of_hidden (hfree : cache.get? specifier = none)
    (hrel : Reference.isRelative specifier = true) {e : LoadError}
    (h : Hidden env cache specifier base context e) :
    findIn env cache specifier base context = (.error e, cache) := by
  cases h with
  | base name found hbase hfails _ =>
      have hsame : (findAlone env cache name).2 = cache :=
        (findAlone_keeps env cache name).adds.2 (by rw [hfails]; exact nofun)
      rw [hbase, findIn_of_based hfree hrel, hfails, hsame]
  | running module artifact hbase hcontext hfails _ =>
      have hunbased : findUnbased env cache specifier context = (.error e, cache) := by
        have hsame : (findInContext env cache module specifier).2 = cache :=
          (findInContext_keeps env cache module specifier).adds.2 (by rw [hfails]; exact nofun)
        rw [hcontext, findUnbased_some, hfails, hsame]
        rfl
      rcases base with _ | name
      · rw [findIn_of_unbased hfree hrel, hunbased]
      · have hmissed := hbase name rfl
        have hsame : (findAlone env cache name).2 = cache :=
          (findAlone_keeps env cache name).adds.2 (by rw [hmissed]; exact nofun)
        rw [findIn_of_based hfree hrel, hmissed, hsame]
        exact hunbased

end Ways

/-- **When a failure to read hides a module.**  Whatever has been asked for before: the places of
every name hold failures back.  The ways of a relative reference do not, the first one that finds
something or fails is the answer; and what comes out is what would come of holding failures back,
if and only if no failure to read hides a module, be it that of the base or that of the running
module.  A failure that does is reported, and nothing is kept of what would have been found. -/
theorem findIn_holdsBack_iff (past : List Request) (request : Request)
    (hrel : Reference.isRelative request.specifier = true) :
    let cache := afterAll {} past
    let answers := ways request.env cache request.specifier request.base request.context
    let hidden := Hidden request.env cache request.specifier request.base request.context
    (∀ name, HoldsBack (places request.env name) (search request.env name)) ∧
    (serve cache request).1 = firstAnswer answers ∧
    (HoldsBack answers (serve cache request).1 ↔ ∀ e, e.isIo = true → ¬ hidden e) ∧
    ∀ e, hidden e → serve cache request = (.error e, cache) := by
  intro cache answers hidden
  have hfree := (sound_afterAll past).get?_relative hrel
  have hanswer : (serve cache request).1 = firstAnswer answers := findIn_eq_firstAnswer hfree hrel
  refine ⟨search_holdsBack request.env, hanswer, ?_, fun e => findIn_of_hidden hfree hrel⟩
  rw [hanswer, firstAnswer_holdsBack_iff]
  refine forall_congr' fun e => ?_
  rw [hides_ways_iff, not_and]

/-- An archive, and packaged resources that cannot be read below the first root. -/
def damaged : Environment :=
  { archive := .ofFiles [("lib/x.js", "x"), ("gone.js", "root")],
    resources := ⟨[.custom fun name =>
      if (Text.dropStart? "node_modules/".toList name.toList).isSome then .error .accessDenied
      else .ok none]⟩ }

/-- The module that runs in the damaged environment. -/
def damagedMain : Artifact := ⟨"lib/main.js", ""⟩

/-- What is reported of the module that cannot be read. -/
def unread : LoadError := .io "node_modules/lib/gone.js" .accessDenied

theorem search_unread : search damaged "lib/gone.js" = .error unread := by
  have hinner : innerName? damaged.settings.dependencyMarker "lib/gone.js" = none :=
    innerName?_eq_none (c := 'd') (by decide) (by decide)
  have habsent : damaged.archive.findFile "lib/gone.js" = none := by rfl
  unfold search candidates
  rw [habsent, hinner]
  rfl

theorem findAlone_unread {cache : RawCache} (hfree : cache.get? "lib/gone.js" = none) :
    findAlone damaged cache "lib/gone.js" = (.error unread, cache) := by
  rw [findAlone_of_fresh hfree (by decide), search_unread]
  rfl

/-- A base that cannot be read hides the module next to the running one, once that has been
found as well. -/
theorem findIn_holdsBack_damaged :
    let request : Request := ⟨damaged, "./x.js", some "lib/gone.js", some damagedMain⟩
    let cache := afterAll {} [⟨damaged, "lib/x.js", none, none⟩]
    Reference.isRelative request.specifier = true ∧
      ¬ HoldsBack (ways damaged cache "./x.js" (some "lib/gone.js") (some damagedMain))
        (serve cache request).1 := by
  intro request cache
  have hrel : Reference.isRelative request.specifier = true := by decide
  refine ⟨hrel, fun h => ?_⟩
  have hiff := (findIn_holdsBack_iff [⟨damaged, "lib/x.js", none, none⟩] request hrel).2.2.1
  have hfails : (findAlone damaged cache "lib/gone.js").1 = .error unread :=
    congrArg Prod.fst (findAlone_unread rfl)
  let neighbour : Found := ⟨⟨"lib/x.js", "x"⟩, some (.raw "lib/x.js")⟩
  have hfound : (findInContext damaged cache damagedMain "./x.js").1 = .ok (some neighbour) := by
    rfl
  have hmem : .ok (some neighbour) ∈ unbasedWays damaged cache "./x.js" (some damagedMain) := by
    rw [unbasedWays_some, hfound]
    exact List.mem_cons_self
  exact hiff.mp h unread rfl (.base "lib/gone.js" neighbour rfl hfails hmem)

/-- What the running module leads to is not found if the base cannot be read, and what the text
leads to is not found if the running module leads to what cannot be read. -/
theorem serve_hidden :
    (serve {} ⟨damaged, "./x.js", some "lib/gone.js", some damagedMain⟩).1 = .error unread ∧
    (serve {} ⟨damaged, "./x.js", none, some damagedMain⟩).1
      = .ok (some ⟨⟨"lib/x.js", "x"⟩, some (.raw "lib/x.js")⟩) ∧
    (serve {} ⟨damaged, "./gone.js", none, some damagedMain⟩).1 = .error unread ∧
    (serve {} ⟨damaged, "./gone.js", none, none⟩).1
      = .ok (some ⟨⟨"./gone.js", "root"⟩, none⟩) := by
  refine ⟨?_, by rfl, ?_, by rfl⟩
  · unfold serve
    rw [findIn_of_based rfl (by decide), findAlone_unread rfl]
  · have htarget : Reference.resolve damagedMain.uri "./gone.js" = .ok "lib/gone.js" := by rfl
    unfold serve
    rw [findIn_of_unbased rfl (by decide), findUnbased_some,
      findInContext_of_path htarget (by decide), findAlone_unread rfl]
    rfl

end ModuleLoader.Search
