/-
Running a closed archive is a walk over its files.

The files of an archive make a graph if each of them lists specifiers that lead to others, and
the archive is closed if all of them do.  A load runs a file that has not been seen, that is,
has not run and is not running; the file's own loads do the same for what it lists, one after
the other, and only then is the file done.  So what begins to run, in order, is a depth-first
walk from the file that was loaded (`load_walks`), and what has run afterwards is what can be
reached from there.

`Walked` is what is shown of a load, by induction on the limit, and of the loads of a run, by
induction on the specifiers that are left.  The limit need not exceed the number of files that
have not been seen, because each run that begins leaves one fewer of them.
-/
import ModuleLoader.Proofs.Evaluation.Endless
import ModuleLoader.Proofs.DepthFirst
import ModuleLoader.Proofs.Search.Files

namespace ModuleLoader.Evaluation

open Search DepthFirst

variable {σ α β : Type}

/-! ### The graph of an archive -/

/-- The file that a specifier means in a file. -/
def meant (path specifier : String) : String :=
  if Reference.isRelative specifier then (Reference.resolve path specifier).toOption.getD specifier
  else specifier

/-- The files that a file lists, in order. -/
def listed (archive : Archive) (lists : Artifact → List String) (path : String) : List String :=
  match archive.findFile path with
  | none => []
  | some text => (lists ⟨path, text⟩).map (meant path)

/-- An archive of modules that run, under clean paths, that list each other.  What else there is
to find modules in does not matter, nor do the settings but for the suffix. -/
structure Closed (env : Environment) (lists : Artifact → List String) : Prop where
  /-- The suffix of modules that run stays within one segment. -/
  flat : '/' ∉ env.settings.compiledSuffix.toList
  clean : ∀ file ∈ env.archive.files, Path.Clean file.1.toList
  compiled : ∀ file ∈ env.archive.files, env.settings.compiledSuffix.toList <:+ file.1.toList
  /-- Each specifier is the path of a file, or a relative reference that leads to one. -/
  closed : ∀ file ∈ env.archive.files, ∀ specifier ∈ lists ⟨file.1, file.2⟩,
    specifier ∈ env.archive.paths ∨ (Reference.isRelative specifier = true ∧
      ∃ target ∈ env.archive.paths, Reference.resolve file.1 specifier = .ok target)

/-- The run loads the specifiers in order and without a base, and ends well when all of them
have been found.  What it does about one that is not found is left open. -/
inductive Requires : List String → RuntimeRun σ → Prop
  | done (inner : σ) : Requires [] (.finish inner (.ok ()))
  | load (inner : σ) (specifier : String) (rest : List String) (next : σ → Outcome → RuntimeRun σ)
      (hnext : ∀ inner found, Requires rest (next inner (.ok (some found)))) :
      Requires (specifier :: rest) (.load inner specifier none next)

/-- A script requires what it loads, if it has no bases and gives up on nothing that is found. -/
theorem requires_runScript {lines : List ScriptLine}
    (h : ∀ line ∈ lines, line.base = none ∧ ∀ found, line.givesUp (.ok (some found)) = none) :
    ∀ inner : σ, Requires (lines.map (·.specifier)) (runScript lines inner) := by
  induction lines with
  | nil => intro inner; exact .done inner
  | cons line rest ih =>
      intro inner
      obtain ⟨hbase, hgoes⟩ := h line List.mem_cons_self
      unfold runScript
      rw [hbase]
      refine .load inner line.specifier _ _ ?_
      intro inner found
      simp only [hgoes found]
      exact ih (fun other hother => h other (List.mem_cons_of_mem _ hother)) inner

/-! ### What a file lists -/

theorem mem_paths {archive : Archive} {path : String} :
    path ∈ archive.paths ↔ ∃ text, (path, text) ∈ archive.files := by
  simp [Archive.paths]

section Closed

variable {env : Environment} {lists : Artifact → List String} {path text : String}

theorem listed_of_file (h : Closed env lists) (hfile : (path, text) ∈ env.archive.files) :
    listed env.archive lists path = (lists ⟨path, text⟩).map (meant path) := by
  unfold listed
  rw [Archive.findFile_of_mem (h.clean _ hfile) hfile]

/-- What a specifier of a file means is a file, and a module that runs is asked for. -/
structure LeadsTo (env : Environment) (context : Option Artifact) (specifier target : String) :
    Prop where
  file : target ∈ env.archive.paths
  means : Means context specifier target
  compiled : env.settings.convention.kindOf specifier = .compiled

theorem Closed.leads (h : Closed env lists) (hfile : (path, text) ∈ env.archive.files)
    {specifier : String} (hlists : specifier ∈ lists ⟨path, text⟩) :
    LeadsTo env (some ⟨path, text⟩) specifier (meant path specifier) := by
  unfold meant
  by_cases hrel : Reference.isRelative specifier = true
  · rw [if_pos hrel]
    obtain hpath | ⟨-, target, htarget, hresolve⟩ := h.closed _ hfile specifier hlists
    · obtain ⟨other, hother⟩ := mem_paths.mp hpath
      rw [Reference.isRelative_of_clean (h.clean _ hother)] at hrel
      cases hrel
    · rw [hresolve]
      obtain ⟨other, hother⟩ := mem_paths.mp htarget
      have hbase := Reference.isAbsolute_of_plain (h.clean _ hfile).toPlain
      have hsuffix := Reference.suffix_of_resolve hbase hrel hresolve (h.clean _ hother) h.flat
        (h.compiled _ hother)
      exact ⟨htarget, Or.inr ⟨hrel, _, rfl, hresolve⟩, SuffixConvention.kindOf_of_suffix hsuffix⟩
  · rw [if_neg hrel]
    obtain hpath | ⟨hrel', -⟩ := h.closed _ hfile specifier hlists
    · obtain ⟨other, hother⟩ := mem_paths.mp hpath
      exact ⟨hpath, Or.inl rfl, SuffixConvention.kindOf_of_suffix (h.compiled _ hother)⟩
    · exact absurd hrel' hrel

/-- A file lists files. -/
theorem Closed.listed_subset (h : Closed env lists) :
    ∀ path ∈ env.archive.paths, ∀ target ∈ listed env.archive lists path,
      target ∈ env.archive.paths := by
  intro path hpath target htarget
  obtain ⟨text, hfile⟩ := mem_paths.mp hpath
  rw [listed_of_file h hfile] at htarget
  obtain ⟨specifier, hlists, rfl⟩ := List.mem_map.mp htarget
  exact (h.leads hfile hlists).file

end Closed

/-! ### Files that have not been seen -/

/-- The files that have not run and are not running. -/
def unseen (archive : Archive) (state : Evaluation σ) : List String :=
  archive.paths.filter fun u => !state.isEvaluated u && !state.isRunning u

theorem mem_unseen {archive : Archive} {state : Evaluation σ} {u : String} :
    u ∈ unseen archive state ↔
      u ∈ archive.paths ∧ state.isEvaluated u = false ∧ state.isRunning u = false := by
  simp [unseen]

theorem unseen_fresh (archive : Archive) (inner : σ) :
    unseen archive ({ host := inner } : Evaluation σ) = archive.paths :=
  List.filter_eq_self.mpr fun _ _ => rfl

theorem unseen_of_quiet (archive : Archive) {state next : Evaluation σ} (h : Quiet state next) :
    unseen archive next = unseen archive state := by
  unfold unseen isRunning
  simp only [h.isEvaluated, h.stack]

/-- A module that begins to run has been seen. -/
theorem unseen_push (archive : Archive) (state : Evaluation σ) (artifact : Artifact) :
    unseen archive (state.push artifact) = without (unseen archive state) artifact.uri := by
  unfold unseen without
  rw [List.filter_filter]
  refine List.filter_congr fun u _ => ?_
  simp only [isRunning, push_stack, push_isEvaluated, List.any_cons, Bool.not_or, ne_eq,
    decide_not, eq_comm (a := u)]
  rw [Bool.and_left_comm]

/-- What has come to be evaluated has been seen. -/
theorem unseen_after (archive : Archive) {state after : Evaluation σ} {seen : List String}
    (hstack : after.stack = state.stack)
    (hevaluated : ∀ u, after.isEvaluated u = true ↔ state.isEvaluated u = true ∨ u ∈ seen) :
    unseen archive after = (unseen archive state).filter (· ∉ seen) := by
  unfold unseen
  rw [List.filter_filter]
  refine List.filter_congr fun u _ => ?_
  have hrunning : after.isRunning u = state.isRunning u := by
    unfold isRunning
    rw [hstack]
  rw [hrunning]
  by_cases hu : u ∈ seen
  · have h : after.isEvaluated u = true := (hevaluated u).mpr (Or.inr hu)
    simp [h, hu]
  · have h : after.isEvaluated u = state.isEvaluated u := by
      rw [Bool.eq_iff_iff, hevaluated u]
      simp [hu]
    simp [h, hu]

/-! ### Walks -/

/-- The modules that begin to run, in order. -/
def started (history : List (Moment σ)) : List String := history.filterMap fun m => m.event.started?

/-- The walk over an archive that is left to do. -/
def walk (archive : Archive) (lists : Artifact → List String) (state : Evaluation σ)
    (todo : List String) : List String :=
  preorder (listed archive lists) (unseen archive state) todo

/-- What happens is the walk from the files that are to be loaded: its files begin to run in
order, and afterwards they have run, and the stack is as it was. -/
structure Walked (env : Environment) (lists : Artifact → List String) (state : Evaluation σ)
    (todo : List String) (seen : Observed σ (α × Evaluation σ)) (answer : α)
    (after : Evaluation σ) : Prop where
  result : seen.result = some (answer, after)
  started : started seen.history = walk env.archive lists state todo
  evaluated : ∀ u, after.isEvaluated u = true ↔
    state.isEvaluated u = true ∨ u ∈ walk env.archive lists state todo
  stack : after.stack = state.stack
  recalls : Recalls env after.raw

section Walked

variable {env : Environment} {lists : Artifact → List String} {state next after : Evaluation σ}

theorem walk_of_quiet (archive : Archive) (h : Quiet state next) (todo : List String) :
    walk archive lists next todo = walk archive lists state todo := by
  unfold walk
  rw [unseen_of_quiet archive h]

theorem Walked.of_quiet {todo : List String} {seen : Observed σ (α × Evaluation σ)} {answer : α}
    (hquiet : Quiet state next) (h : Walked env lists next todo seen answer after) :
    Walked env lists state todo seen answer after := by
  have hwalk : walk env.archive lists next todo = walk env.archive lists state todo :=
    walk_of_quiet env.archive hquiet todo
  refine ⟨h.result, by rw [h.started, hwalk], ?_, h.stack.trans hquiet.stack, h.recalls⟩
  intro u
  rw [h.evaluated u, hwalk, hquiet.isEvaluated]

/-- Nothing happens if there is nothing to do. -/
theorem walked_pure (answer : α) (hquiet : Quiet state next) {todo : List String}
    (hnothing : walk env.archive lists state todo = []) (hrecalls : Recalls env next.raw) :
    Walked env lists state todo (.pure (answer, next)) answer next := by
  refine ⟨rfl, hnothing.symm, ?_, hquiet.stack, hrecalls⟩
  intro u
  rw [hnothing, hquiet.isEvaluated]
  simp

/-- Being asked for a module does not take part in a walk. -/
theorem Walked.after_load {todo : List String} {seen : Observed σ (α × Evaluation σ)} {answer : α}
    (h : Walked env lists state todo seen answer after) (asked : Environment) (specifier : String)
    (base : Option String) :
    Walked env lists state todo (.after ⟨.load asked specifier base, state⟩ seen) answer after :=
  ⟨h.result, h.started, h.evaluated, h.stack, h.recalls⟩

/-- Walks follow one another. -/
theorem Walked.andThen {xs ys : List String} {seen : Observed σ (α × Evaluation σ)} {a : α}
    {b : β} {f : α × Evaluation σ → Observed σ (β × Evaluation σ)}
    (hx : Walked env lists state xs seen a next) (hy : Walked env lists next ys (f (a, next)) b after) :
    Walked env lists state (xs ++ ys) (seen.andThen f) b after := by
  have hwalk : walk env.archive lists state (xs ++ ys) =
      walk env.archive lists state xs ++ walk env.archive lists next ys := by
    unfold walk
    rw [unseen_after env.archive hx.stack hx.evaluated, preorder_append]
    rfl
  have hseen : seen.andThen f = ⟨seen.history ++ (f (a, next)).history, (f (a, next)).result⟩ := by
    unfold Observed.andThen
    rw [hx.result]
  refine ⟨?_, ?_, ?_, hy.stack.trans hx.stack, hy.recalls⟩
  · rw [hseen, hy.result]
  · rw [hseen, hwalk, ← hx.started, ← hy.started]
    unfold Evaluation.started
    rw [List.filterMap_append]
  · intro u
    rw [hy.evaluated u, hx.evaluated u, hwalk, List.mem_append, or_assoc]

end Walked

/-! ### Loads walk -/

/-- Each load of a file is a walk from it, if no more than so many files have not been seen. -/
def Walks (env : Environment) (lists : Artifact → List String) (room : Nat)
    (load : ObservedLoad σ) : Prop :=
  ∀ (state : Evaluation σ) (specifier target text : String), (target, text) ∈ env.archive.files →
    LeadsTo env state.context? specifier target → Recalls env state.raw →
    (unseen env.archive state).length ≤ room →
    ∃ after, Walked env lists state [target] (load state specifier none)
      (.ok (some ⟨⟨target, text⟩, some (.raw target)⟩)) after

section Loads

variable {env : Environment} {lists : Artifact → List String}

theorem resolve_file (hclosed : Closed env lists) (host : Host σ) {state : Evaluation σ}
    {specifier target text : String} (hfile : (target, text) ∈ env.archive.files)
    (hleads : LeadsTo env state.context? specifier target) (hrecalls : Recalls env state.raw) :
    ∃ raw, Recalls env raw ∧ resolve env host state specifier none =
      (.ok (some ⟨⟨target, text⟩, some (.raw target)⟩), { state with raw := raw }) := by
  obtain ⟨hfound, hafter⟩ := findIn_file hrecalls (hclosed.clean _ hfile) hfile hleads.means
  refine ⟨_, hafter, ?_⟩
  unfold resolve OnDemand.executableIn
  rcases h : findIn env state.raw specifier none state.context? with ⟨outcome, raw⟩
  rw [h] at hfound
  obtain rfl : outcome = _ := hfound
  rfl

/-- The loads of a run are a walk from what its module lists. -/
theorem perform_walked (hclosed : Closed env lists) {room : Nat} {load : ObservedLoad σ}
    (hload : Walks env lists room load) {path text : String}
    (hfile : (path, text) ∈ env.archive.files) {specifiers : List String} {run : RuntimeRun σ}
    (hrun : Requires specifiers run) :
    ∀ state : Evaluation σ, (∀ specifier ∈ specifiers, specifier ∈ lists ⟨path, text⟩) →
      state.context? = some ⟨path, text⟩ → Recalls env state.raw →
      (unseen env.archive state).length ≤ room →
      ∃ after, Walked env lists state (specifiers.map (meant path))
        (performObserved load run state) (.ok ()) after := by
  induction hrun with
  | done inner =>
      intro state _ _ hrecalls _
      have hnothing : walk env.archive lists state [] = [] := preorder_nil _
      exact ⟨_, walked_pure _ (quiet_host state inner) hnothing hrecalls⟩
  | load inner specifier rest next _ ih =>
      intro state hlists hcontext hrecalls hroom
      have hleads := hclosed.leads hfile (hlists specifier List.mem_cons_self)
      rw [← hcontext] at hleads
      obtain ⟨other, hother⟩ := mem_paths.mp hleads.file
      obtain ⟨answered, hfirst⟩ :=
        hload { state with host := inner } specifier _ other hother hleads hrecalls hroom
      have hcontext' : answered.context? = some ⟨path, text⟩ := by
        rw [← hcontext]
        exact congrArg List.head? hfirst.stack
      have hroom' : (unseen env.archive answered).length ≤ room := by
        rw [unseen_after env.archive hfirst.stack hfirst.evaluated]
        exact Nat.le_trans (List.length_filter_le _ _) hroom
      obtain ⟨after, hrest⟩ := ih answered.host _ answered
        (fun s hs => hlists s (List.mem_cons_of_mem _ hs)) hcontext' hfirst.recalls hroom'
      exact ⟨after, (hfirst.andThen hrest).of_quiet (quiet_host state inner)⟩

/-- The run of a file that has not been seen is a walk from it. -/
theorem execute_walked (hclosed : Closed env lists) {runtime : Runtime σ}
    (hrequires : ∀ inner artifact stack, Requires (lists artifact) (runtime inner artifact stack))
    {room : Nat} {load : ObservedLoad σ} (hload : Walks env lists room load)
    {state : Evaluation σ} (specifier : String) (found : Found)
    (hfile : (found.artifact.uri, found.artifact.contents) ∈ env.archive.files)
    (hunseen : found.artifact.uri ∈ unseen env.archive state) (hrecalls : Recalls env state.raw)
    (hroom : (unseen env.archive state).length ≤ room + 1) :
    ∃ after, Walked env lists state [found.artifact.uri]
      (executeObserved load runtime state specifier found) (.ok (some found)) after := by
  have hpush := unseen_push env.archive state found.artifact
  have hless := length_without_lt hunseen
  obtain ⟨ended, hrun⟩ := perform_walked hclosed hload hfile
    (hrequires (state.push found.artifact).host found.artifact (state.push found.artifact).stack)
    (state.push found.artifact) (fun _ hs => hs) rfl hrecalls (by rw [hpush]; omega)
  have hwalk : walk env.archive lists state [found.artifact.uri] = found.artifact.uri ::
      walk env.archive lists (state.push found.artifact)
        ((lists found.artifact).map (meant found.artifact.uri)) := by
    unfold walk
    rw [preorder_unseen hunseen, hpush, listed_of_file hclosed hfile, List.append_nil]
  have hseen : executeObserved load runtime state specifier found =
      ⟨⟨.start found.artifact.uri, state.push found.artifact⟩ ::
        ((performObserved load (runtime (state.push found.artifact).host found.artifact
          (state.push found.artifact).stack) (state.push found.artifact)).history ++
          [⟨.finish found.artifact.uri (.ok ()), (leave state.depth specifier found (.ok ()) ended).2⟩]),
        some (leave state.depth specifier found (.ok ()) ended)⟩ := by
    unfold executeObserved Observed.after Observed.andThen
    simp only [hrun.result]
  refine ⟨(leave state.depth specifier found (.ok ()) ended).2, ?_, ?_, ?_, ?_, ?_⟩
  · rw [hseen]
    rfl
  · rw [hseen, hwalk, ← hrun.started]
    simp [started, Event.started?]
  · intro u
    rw [leave_isEvaluated, hrun.evaluated u, hwalk, List.mem_cons, push_isEvaluated]
    simp only [true_and]
    exact or_assoc.trans (or_congr_right or_comm)
  · exact leave_stack hrun.stack specifier found (.ok ())
  · exact hrun.recalls

/-- A file that has been seen does not run again. -/
theorem observe_seen (hclosed : Closed env lists) {host : Host σ} {state : Evaluation σ}
    {specifier target text : String} (hfile : (target, text) ∈ env.archive.files)
    (hleads : LeadsTo env state.context? specifier target) (hrecalls : Recalls env state.raw)
    (hseen : target ∉ unseen env.archive state) (limit : Nat) :
    ∃ after, Walked env lists state [target] (observe env host limit state specifier none)
      (.ok (some ⟨⟨target, text⟩, some (.raw target)⟩)) after := by
  obtain ⟨raw, hraw, hresolve⟩ := resolve_file hclosed host hfile hleads hrecalls
  have hidle : due? env host specifier (resolve env host state specifier none) = none := by
    rw [Option.eq_none_iff_forall_ne_some, hresolve]
    rintro ⟨runtime, found⟩ hdue
    obtain ⟨hfound, -, -, hnew, hidle⟩ := due?_eq_some_iff.mp hdue
    obtain rfl : _ = found := Option.some.inj (Except.ok.inj hfound)
    exact hseen (mem_unseen.mpr ⟨hleads.file, hnew, hidle⟩)
  have hnothing : walk env.archive lists state [target] = [] := by
    unfold walk
    rw [preorder_seen hseen, preorder_nil]
  have hquiet : Quiet state { state with raw := raw } := ⟨rfl, rfl⟩
  rw [observe_idle hidle, hresolve]
  exact ⟨_, (walked_pure _ hquiet hnothing hraw).after_load env specifier none⟩

/-- **Every load of a file is a walk from it**, at every limit that is not smaller than the
number of files that have not been seen. -/
theorem observe_walks (hclosed : Closed env lists) {host : Host σ} {runtime : Runtime σ}
    (hruntime : host.runtime = some runtime)
    (hrequires : ∀ inner artifact stack, Requires (lists artifact) (runtime inner artifact stack)) :
    ∀ limit, Walks env lists limit (observe env host limit) := by
  intro limit
  induction limit with
  | zero =>
      intro state specifier target text hfile hleads hrecalls hroom
      have hseen : target ∉ unseen env.archive state := by
        rw [List.eq_nil_of_length_eq_zero (Nat.le_zero.mp hroom)]
        exact List.not_mem_nil
      exact observe_seen hclosed hfile hleads hrecalls hseen 0
  | succ limit ih =>
      intro state specifier target text hfile hleads hrecalls hroom
      by_cases hunseen : target ∈ unseen env.archive state
      · obtain ⟨raw, hraw, hresolve⟩ := resolve_file hclosed host hfile hleads hrecalls
        have hquiet : Quiet state { state with raw := raw } := ⟨rfl, rfl⟩
        have hdue : due? env host specifier (resolve env host state specifier none) =
            some (runtime, ⟨⟨target, text⟩, some (.raw target)⟩) := by
          obtain ⟨-, hnew, hidle⟩ := mem_unseen.mp hunseen
          rw [hresolve]
          exact due?_eq_some_iff.mpr ⟨rfl, hruntime, hleads.compiled, hnew, hidle⟩
        rw [observe_succ_due hdue, hresolve]
        rw [← unseen_of_quiet env.archive hquiet] at hunseen hroom
        obtain ⟨after, hwalked⟩ :=
          execute_walked hclosed hrequires ih specifier ⟨⟨target, text⟩, some (.raw target)⟩
            hfile hunseen hraw hroom
        exact ⟨after, (hwalked.of_quiet hquiet).after_load env specifier none⟩
      · exact observe_seen hclosed hfile hleads hrecalls hunseen (limit + 1)

/-- **Loading a file of a closed archive runs what can be reached from it, depth first.**  The
load ends well at every limit that is not smaller than the number of files.  The modules begin to
run in the order of the walk from the file, each of them once; afterwards these have run and no
others, and nothing is running. -/
theorem load_walks (hclosed : Closed env lists) {host : Host σ} {runtime : Runtime σ}
    (hruntime : host.runtime = some runtime)
    (hrequires : ∀ inner artifact stack, Requires (lists artifact) (runtime inner artifact stack))
    {path text : String} (hfile : (path, text) ∈ env.archive.files) (inner : σ) {limit : Nat}
    (hlimit : env.archive.size ≤ limit) :
    let start : Evaluation σ := { host := inner }
    let order := preorder (listed env.archive lists) env.archive.paths [path]
    ∃ after,
      loadAndRun env host limit start path none
        = some (.ok (some ⟨⟨path, text⟩, some (.raw path)⟩), after) ∧
      (observe env host limit start path none).result = loadAndRun env host limit start path none ∧
      started (observe env host limit start path none).history = order ∧
      order.Nodup ∧
      (∀ u, u ∈ order ↔ Relation.ReflTransGen (fun a b => b ∈ listed env.archive lists a) path u) ∧
      (∀ u, after.isEvaluated u = true ↔ u ∈ order) ∧
      after.stack = [] := by
  intro start order
  have hpath : path ∈ env.archive.paths := mem_paths.mpr ⟨text, hfile⟩
  have hleads : LeadsTo env start.context? path path :=
    ⟨hpath, Or.inl rfl, SuffixConvention.kindOf_of_suffix (hclosed.compiled _ hfile)⟩
  have hunseen : unseen env.archive start = env.archive.paths := unseen_fresh env.archive inner
  have hroom : (unseen env.archive start).length ≤ limit := by
    rw [hunseen]
    unfold Archive.paths
    rw [List.length_map]
    exact hlimit
  obtain ⟨after, hwalked⟩ := observe_walks hclosed hruntime hrequires limit start path path text
    hfile hleads (recalls_empty env) hroom
  have horder : walk env.archive lists start [path] = order := by
    unfold walk
    rw [hunseen]
  refine ⟨after, ?_, observe_result env host limit start path none, ?_, ?_, ?_, ?_, hwalked.stack⟩
  · rw [← observe_result, hwalked.result]
  · rw [hwalked.started, horder]
  · exact preorder_nodup _ _ _
  · intro u
    exact mem_preorder_iff hclosed.listed_subset hpath
  · intro u
    have hfresh : start.isEvaluated u = false := rfl
    rw [hwalked.evaluated u, horder, hfresh]
    simp

end Loads

/-! ### An archive with a circle and a shared module -/

/-- The words of a text. -/
def wordsOf (text : String) : List String :=
  ((Text.split ' ' text.toList).filter (· ≠ [])).map String.ofList

/-- Modules that name what they require, relatively and by path; one of them is required twice,
two require each other, and one is not required. -/
def shared : Environment :=
  { archive := .ofFiles [("app/main.js", "./a.js lib/b.js"), ("app/a.js", "../lib/b.js ./main.js"),
      ("lib/b.js", "../app/a.js"), ("lib/c.js", "./b.js")] }

theorem closed_shared : Closed shared fun artifact => wordsOf artifact.contents := by
  have hfiles : shared.archive.files = [("app/a.js", "../lib/b.js ./main.js"),
      ("app/main.js", "./a.js lib/b.js"), ("lib/b.js", "../app/a.js"), ("lib/c.js", "./b.js")] := by
    rfl
  refine ⟨by decide, ?_, ?_, ?_⟩
  · rw [hfiles]
    decide
  · rw [hfiles]
    decide
  · rw [hfiles]
    decide

/-- The script that requires all the words of a text. -/
def requiresAll (text : String) : List ScriptLine := (wordsOf text).flatMap requires

theorem requires_scripted (inner : σ) (artifact : Artifact) (stack : List Artifact) :
    Requires (wordsOf artifact.contents) (scripted requiresAll inner artifact stack) := by
  have hwords : (requiresAll artifact.contents).map (·.specifier) = wordsOf artifact.contents := by
    simp [requiresAll, requires, List.map_flatMap]
  rw [← hwords]
  refine requires_runScript ?_ inner
  intro line hline
  obtain ⟨word, -, hline⟩ := List.mem_flatMap.mp hline
  rw [List.mem_singleton.mp hline]
  exact ⟨rfl, fun _ => rfl⟩

theorem order_shared :
    preorder (listed shared.archive fun artifact => wordsOf artifact.contents)
      shared.archive.paths ["app/main.js"] = ["app/main.js", "app/a.js", "lib/b.js"] := by
  have hpaths : shared.archive.paths = ["app/a.js", "app/main.js", "lib/b.js", "lib/c.js"] := by
    rfl
  have hmain : listed shared.archive (fun artifact => wordsOf artifact.contents) "app/main.js"
      = ["app/a.js", "lib/b.js"] := by rfl
  have ha : listed shared.archive (fun artifact => wordsOf artifact.contents) "app/a.js"
      = ["lib/b.js", "app/main.js"] := by rfl
  have hb : listed shared.archive (fun artifact => wordsOf artifact.contents) "lib/b.js"
      = ["app/a.js"] := by rfl
  rw [hpaths]
  simp [preorder, without, hmain, ha, hb]

/-- Each module that can be reached runs before what else there is to do; the rest does not run. -/
theorem load_walks_shared :
    let start : Evaluation Unit := { host := () }
    let host : Host Unit := ⟨noCompiler, some (scripted requiresAll)⟩
    ∃ after,
      loadAndRun shared host 4 start "app/main.js" none = some (.ok (some
        ⟨⟨"app/main.js", "./a.js lib/b.js"⟩, some (.raw "app/main.js")⟩), after) ∧
      started (observe shared host 4 start "app/main.js" none).history
        = ["app/main.js", "app/a.js", "lib/b.js"] ∧
      after.isEvaluated "lib/b.js" = true ∧ after.isEvaluated "lib/c.js" = false ∧
      after.stack = [] := by
  intro start host
  have hfile : ("app/main.js", "./a.js lib/b.js") ∈ shared.archive.files := by decide
  have hruntime : host.runtime = some (scripted requiresAll) := rfl
  obtain ⟨after, hresult, -, hstarted, -, -, hevaluated, hstack⟩ :=
    load_walks closed_shared hruntime requires_scripted hfile () (Nat.le_refl 4)
  rw [order_shared] at hstarted hevaluated
  refine ⟨after, hresult, hstarted, ?_, ?_, hstack⟩
  · rw [hevaluated]
    decide
  · rw [← Bool.not_eq_true, hevaluated]
    decide

end ModuleLoader.Evaluation
