/-
Loads that come to an end whatever the modules hold.

Modules that load each other in a circle are stopped by the guard if the circle comes back to
an identity that is on the stack.  It does where every specifier is clear: plain, and not
naming the dependency directory if it is relative.  Then all identities that come up lie near
the beginning of paths, there are finitely many of those, and every load finishes
(`finishes_of_clear`), as does every sequence of loads (`loadAll_finishes`).
-/
import ModuleLoader.Proofs.Search.Clear
import ModuleLoader.Proofs.Compile.Yields
import ModuleLoader.Proofs.Evaluation.Depth
import ModuleLoader.Proofs.Evaluation.Invariant

namespace ModuleLoader.Evaluation

open Search

variable {σ : Type}

/-- A clear specifier, with a plain base if with any. -/
structure Asks (name : Path.Segment) (room : Nat) (specifier : String) (base : Option String) :
    Prop where
  clear : Clear name room specifier
  base : ∀ u ∈ base, Named room u

/-- Dependencies lie in one directory, and there is room for all names; the archive and the
resources hold texts of some kind.  Compilers come to such texts, and runtimes that are given
such texts, and compilers, ask for modules by clear specifiers.  A compiler may also ask from
where its source is. -/
structure ClearWorld (env : Environment) (host : Host σ) (name : Path.Segment) (room : Nat)
    (T : String → Prop) : Prop where
  one : OneDirectory env.settings name
  within : Within env room
  texts : ∀ text, Holds env text → T text
  compiler : ∀ inner source, (host.compiler inner source).Confined
    (fun specifier base => base = some source ∧ Clear name room specifier ∨
      Asks name room specifier base) T
  runtime : ∀ runtime ∈ host.runtime, ∀ inner artifact stack, T artifact.contents →
    (runtime inner artifact stack).Confined (Asks name room)

/-! ### What comes up in a load lies near -/

/-- The room for the names of modules and of their sources. -/
def roomFor (settings : Settings) (room : Nat) : Nat := room + settings.sourceSuffix.length

/-- How long the identities of modules can be. -/
def reachOf (settings : Settings) (room : Nat) : Nat :=
  2 * roomFor settings room + 2 + settings.compiledSuffix.length

/-- A module that was found as it is. -/
def FoundNear (settings : Settings) (name : Path.Segment) (room : Nat) (T : String → Prop) :
    Artifact → Prop :=
  Known name (roomFor settings room) (2 * roomFor settings room + 2) T

/-- A module that was found, or compiled from one that was. -/
def MadeNear (settings : Settings) (name : Path.Segment) (room : Nat) (T : String → Prop) :
    Artifact → Prop :=
  Known name (roomFor settings room) (reachOf settings room) T

/-- Whatever has been found, has been compiled or is running lies near. -/
structure AllNear (settings : Settings) (name : Path.Segment) (room : Nat) (T : String → Prop)
    (state : Evaluation σ) : Prop where
  kept : state.toCompileState.All (FoundNear settings name room T) (MadeNear settings name room T)
  stack : ∀ running ∈ state.stack, MadeNear settings name room T running

theorem allNear_fresh (settings : Settings) (name : Path.Segment) (room : Nat)
    (T : String → Prop) (inner : σ) (evaluated : List String) :
    AllNear settings name room T ({ host := inner, evaluated := evaluated } : Evaluation σ) := by
  refine ⟨⟨?_, ?_⟩, ?_⟩
  · intro entry hentry
    cases hentry
  · intro slot hslot
    cases hslot
  · intro running hrunning
    cases hrunning

section Clear

variable {env : Environment} {host : Host σ} {name : Path.Segment} {room : Nat} {T : String → Prop}

/-- A clear specifier keeps to what was found near, from a base that lies near. -/
theorem stays_of_asked (h : ClearWorld env host name room T) {specifier : String}
    (hclear : Clear name room specifier) {base : Option String}
    (hbase : ∀ u ∈ base, Near name (roomFor env.settings room) u ∧
      u.length ≤ 2 * roomFor env.settings room + 2) {context : Option Artifact}
    (hcontext : ∀ running ∈ context, Near name (roomFor env.settings room) running.uri) :
    Stays env (FoundNear env.settings name room T) specifier base context ∧
      ∀ counterpart ∈ env.settings.convention.sourceCounterpart specifier,
        Stays env (FoundNear env.settings name room T) counterpart base context := by
  have hroom : room ≤ roomFor env.settings room := Nat.le_add_right _ _
  have hwithin := h.within.mono hroom
  refine ⟨stays_of_clear h.one hwithin h.texts (hclear.mono hroom) hbase hcontext, ?_⟩
  intro counterpart hname
  exact stays_of_clear h.one hwithin h.texts (hclear.sourceCounterpart h.one hname) hbase hcontext

theorem Asks.base_near {settings : Settings} {specifier : String} {base : Option String}
    (hasks : Asks name room specifier base) :
    ∀ u ∈ base, Near name (roomFor settings room) u ∧ u.length ≤ 2 * roomFor settings room + 2 := by
  intro u hu
  have hnamed := (hasks.base u hu).mono (Nat.le_add_right room settings.sourceSuffix.length)
  have hshort := hnamed.short
  exact ⟨hnamed.near, by unfold roomFor; omega⟩

/-- What a source that lies near is compiled to lies near. -/
theorem compiles_near (h : ClearWorld env host name room T) {source : Artifact}
    (hsource : FoundNear env.settings name room T source) {requested : String}
    (hrequested : Clear name room requested) :
    OnDemand.Compiles env host.compiler (FoundNear env.settings name room T)
      (MadeNear env.settings name room T) source.uri requested := by
  intro inner
  have hnone : ∀ running ∈ (none : Option Artifact),
      Near name (roomFor env.settings room) running.uri := nofun
  refine (h.compiler inner source.uri).mono ?_ ?_
  · rintro specifier base (⟨rfl, hclear⟩ | hasks)
    · refine (stays_of_asked h hclear ?_ hnone).1
      intro u hu
      cases hu
      exact ⟨hsource.near, hsource.short⟩
    · exact (stays_of_asked h hasks.clear hasks.base_near hnone).1
  · intro text htext
    have hshort := hsource.short
    rcases hname : env.settings.convention.compiledCounterpart source.uri with _ | counterpart
    · have hclear := hrequested.mono (Nat.le_add_right room env.settings.sourceSuffix.length)
      have hlength := hclear.short
      refine ⟨hclear.near, ?_, htext⟩
      show requested.length ≤ reachOf env.settings room
      unfold reachOf roomFor
      omega
    · obtain ⟨hnear, hlength⟩ := hsource.near.compiledCounterpart h.one hname
      refine ⟨hnear, ?_, htext⟩
      show counterpart.length ≤ reachOf env.settings room
      unfold reachOf
      omega

theorem resolve_yields (h : ClearWorld env host name room T) {state : Evaluation σ}
    {specifier : String} {base : Option String}
    (hstate : AllNear env.settings name room T state) (hasks : Asks name room specifier base) :
    OnDemand.YieldsState (FoundNear env.settings name room T) (MadeNear env.settings name room T)
      (OnDemand.executableIn env host.compiler state.toCompileState specifier base
        state.context?) := by
  have hcontext : ∀ running ∈ state.context?, Near name (roomFor env.settings room) running.uri :=
    fun running hrunning => (hstate.stack running (List.mem_of_mem_head? hrunning)).near
  obtain ⟨hspecifier, hcounterpart⟩ := stays_of_asked h hasks.clear hasks.base_near hcontext
  have hle : ∀ artifact, FoundNear env.settings name room T artifact →
      MadeNear env.settings name room T artifact := by
    intro artifact hfound
    exact ⟨hfound.near, Nat.le_trans hfound.short (Nat.le_add_right _ _), hfound.text⟩
  exact OnDemand.executableIn_yields hle hstate.kept hspecifier hcounterpart
    fun source hsource => compiles_near h hsource hasks.clear

theorem invariant_allNear (h : ClearWorld env host name room T) :
    Invariant env host (Asks name room) (AllNear env.settings name room T) where
  resolved := by
    intro state specifier base hstate hasks
    exact ⟨(resolve_yields h hstate hasks).state, hstate.stack⟩
  pushed := by
    intro state specifier base runtime found hstate hasks hdue
    obtain ⟨hanswer, hkept⟩ := resolve_yields h hstate hasks
    refine ⟨hkept, ?_⟩
    intro running hrunning
    rcases List.mem_cons.mp hrunning with rfl | hrunning
    · exact hanswer found (due?_eq_some_iff.mp hdue).1
    · exact hstate.stack running hrunning
  confined := by
    intro state specifier base runtime found hstate hasks hdue inner stack
    obtain ⟨hanswer, -⟩ := resolve_yields h hstate hasks
    obtain ⟨hfound, hruntime, -⟩ := due?_eq_some_iff.mp hdue
    exact h.runtime runtime hruntime inner found.artifact stack (hanswer found hfound).text
  moved := by
    intro state inner hstate
    exact ⟨⟨hstate.kept.raw, hstate.kept.slots⟩, hstate.stack⟩
  left := by
    intro state depth specifier found result hstate
    have hrest : ∀ running ∈ (state.truncate depth).stack,
        MadeNear env.settings name room T running :=
      fun running hrunning => hstate.stack running (List.mem_of_mem_drop hrunning)
    rcases result with cause | _
    · exact ⟨hstate.kept, hrest⟩
    · exact ⟨hstate.kept, hrest⟩

/-- **Where every specifier is clear, every load finishes.** -/
theorem finishes_of_clear (h : ClearWorld env host name room T) {state : Evaluation σ}
    (hstate : AllNear env.settings name room T state) (hempty : state.stack = []) {specifier : String} {base : Option String}
    (hasks : Asks name room specifier base) : Finishes host ⟨env, specifier, base⟩ state := by
  have hbound : ∀ u, RunsUnder host ⟨env, specifier, base⟩ state u →
      u.length ≤ reachOf env.settings room := by
    rintro u ⟨m, hm, hevent⟩
    obtain ⟨artifact, hartifact, rfl⟩ := hm.started hevent
    obtain ⟨limit, hm⟩ := hm
    have hkeeps := observe_keeps (invariant_allNear h) limit state specifier base hstate hasks
    exact ((hkeeps.history m hm).stack artifact hartifact).short
  exact finishes_of_length_le hempty hbound

/-- **And so does every sequence of loads**: from some limit on each of them has a result. -/
theorem loadAll_finishes (h : ClearWorld env host name room T) {calls : List Call}
    (hcalls : ∀ call ∈ calls, call.env = env ∧ Asks name room call.specifier call.base) :
    ∀ {state : Evaluation σ}, AllNear env.settings name room T state → state.stack = [] →
      ∃ enough, ∀ limit, enough ≤ limit → (loadAll host limit calls state).isSome = true := by
  induction calls with
  | nil => intro state _ _; exact ⟨0, fun _ _ => rfl⟩
  | cons call rest ih =>
      intro state hstate hempty
      obtain ⟨henv, hasks⟩ := hcalls call List.mem_cons_self
      obtain ⟨limit, hsome⟩ := finishes_of_clear h hstate hempty hasks
      obtain ⟨⟨outcome, after⟩, hresult⟩ := Option.isSome_iff_exists.mp hsome
      rw [← observe_result] at hresult
      have hafter : AllNear env.settings name room T after :=
        (observe_keeps (invariant_allNear h) limit state _ _ hstate hasks).result outcome after
          hresult
      have hstack : after.stack = [] := by
        rw [((tracks_observe env host limit state _ _).result outcome after hresult).2, hempty]
      obtain ⟨enough, hrest⟩ := ih (fun c hc => hcalls c (List.mem_cons_of_mem _ hc)) hafter hstack
      refine ⟨max limit enough, ?_⟩
      intro larger hle
      have hfirst : loadAndRun call.env host larger state call.specifier call.base
          = some (outcome, after) := by
        have hextends := observe_extends env host (Nat.le_trans (Nat.le_max_left _ _) hle) state
          call.specifier call.base
        rw [henv, ← observe_result, hextends.result _ hresult, hresult]
      unfold loadAll
      rw [hfirst]
      simp only [Option.isSome_map]
      exact hrest larger (Nat.le_trans (Nat.le_max_right _ _) hle)

end Clear

/-! ### Scripts -/

/-- One load of a script: what is loaded, and after which outcomes the script gives up, with
which cause. -/
structure ScriptLine where
  specifier : String
  base : Option String := none
  givesUp : Outcome → Option String

/-- Performs the loads of a script in order. -/
def runScript : List ScriptLine → σ → RuntimeRun σ
  | [], inner => .finish inner (.ok ())
  | line :: rest, inner => .load inner line.specifier line.base fun inner answer =>
    match line.givesUp answer with
    | some cause => .finish inner (.error cause)
    | none => runScript rest inner

/-- The runtime for which the text of a module is a script. -/
def scripted (read : String → List ScriptLine) : Runtime σ := fun inner artifact _ =>
  runScript (read artifact.contents) inner

/-- All loads of the script that the text is are clear. -/
def ReadsClear (read : String → List ScriptLine) (name : Path.Segment) (room : Nat)
    (text : String) : Prop :=
  ∀ line ∈ read text, Asks name room line.specifier line.base

theorem Asks.mono {name : Path.Segment} {room larger : Nat} (hle : room ≤ larger)
    {specifier : String} {base : Option String} (h : Asks name room specifier base) :
    Asks name larger specifier base :=
  ⟨h.clear.mono hle, fun u hu => (h.base u hu).mono hle⟩

theorem runScript_confined {W : String → Option String → Prop} {lines : List ScriptLine}
    (h : ∀ line ∈ lines, W line.specifier line.base) :
    ∀ inner : σ, (runScript lines inner).Confined W := by
  induction lines with
  | nil => intro inner; trivial
  | cons line rest ih =>
      intro inner
      refine ⟨h line List.mem_cons_self, ?_⟩
      intro inner answer
      simp only
      rcases line.givesUp answer with _ | cause
      · exact ih (fun other hother => h other (List.mem_cons_of_mem _ hother)) inner
      · trivial

/-- Whatever is held in memory, there is room for all of it. -/
theorem exists_within {env : Environment} (hmemory : InMemory env.resources) :
    ∃ room, Within env room := by
  obtain ⟨paths, hpaths⟩ := exists_bound String.length env.archive.paths
  obtain ⟨resources, hresources⟩ :=
    exists_bound (fun r : String × ByteArray => r.1.length) (memoryFiles env.resources)
  exact ⟨max paths resources, hmemory,
    fun path hpath => Nat.le_trans (hpaths path hpath) (Nat.le_max_left _ _),
    fun resource hresource => Nat.le_trans (hresources resource hresource) (Nat.le_max_right _ _)⟩

/-- All that scripts load is clear: those that are held in the archive or in memory, and those
that the compiler comes to. -/
structure ClearScripts (env : Environment) (read : String → List ScriptLine)
    (compiler : Compiler σ) (name : Path.Segment) (room : Nat) : Prop where
  one : OneDirectory env.settings name
  memory : InMemory env.resources
  held : ∀ text, Holds env text → ReadsClear read name room text
  compiled : ∀ inner source, (compiler inner source).Confined
    (fun specifier base => base = some source ∧ Clear name room specifier ∨
      Asks name room specifier base) (ReadsClear read name room)

/-- **Scripts with clear loads come to an end**, whatever circles they load each other in, and
whatever becomes of the loads. -/
theorem script_finishes {env : Environment} {read : String → List ScriptLine}
    {compiler : Compiler σ} {name : Path.Segment} {room : Nat}
    (h : ClearScripts env read compiler name room) {calls : List Call}
    (hcalls : ∀ call ∈ calls, call.env = env ∧ Asks name room call.specifier call.base) (inner : σ) :
    ∃ enough, ∀ limit, enough ≤ limit →
      (loadAll ⟨compiler, some (scripted read)⟩ limit calls { host := inner }).isSome = true := by
  obtain ⟨held, hwithin⟩ := exists_within h.memory
  have hroom : room ≤ max room held := Nat.le_max_left _ _
  have hclear : ∀ text, ReadsClear read name room text →
      ReadsClear read name (max room held) text :=
    fun text htext line hline => (htext line hline).mono hroom
  have hworld : ClearWorld env ⟨compiler, some (scripted read)⟩ name (max room held)
      (ReadsClear read name (max room held)) := by
    refine ⟨h.one, hwithin.mono (Nat.le_max_right _ _), ?_, ?_, ?_⟩
    · exact fun text htext => hclear text (h.held text htext)
    · intro inner source
      refine (h.compiled inner source).mono ?_ hclear
      rintro specifier base (⟨hbase, hspecifier⟩ | hasks)
      · exact Or.inl ⟨hbase, hspecifier.mono hroom⟩
      · exact Or.inr (hasks.mono hroom)
    · intro runtime hruntime inner artifact stack htext
      cases hruntime
      exact runScript_confined htext inner
  have hstart := allNear_fresh env.settings name (max room held)
    (ReadsClear read name (max room held)) inner []
  exact loadAll_finishes hworld
    (fun call hcall => ⟨(hcalls call hcall).1, (hcalls call hcall).2.mono hroom⟩) hstart rfl

end ModuleLoader.Evaluation
