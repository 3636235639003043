/-
Loads that do not come to an end.

A packaged module may mention itself as a dependency: by a relative reference that names the
dependency directory.  The reference leads from wherever the module is to a directory further
down, and what is looked for there is again the packaged module, known now by the longer
identity.  So the guard, which goes by identities, does not see that the module is running
already.  It runs itself for ever, each time one directory deeper (`load_endless`).
-/
import ModuleLoader.Proofs.Evaluation.Clear
import ModuleLoader.Proofs.Path.Clean

namespace ModuleLoader

open Text

namespace Path

/-- A file at the end of so many directories of one name. -/
def deep (name file : Segment) : Nat → List Char
  | 0 => file
  | k + 1 => name ++ '/' :: deep name file k

variable {name file : Segment}

theorem length_deep_lt (k : Nat) : (deep name file k).length < (deep name file (k + 1)).length := by
  show _ < (name ++ '/' :: deep name file k).length
  rw [List.length_append, List.length_cons]
  omega

theorem split_deep (hname : '/' ∉ name) (hfile : '/' ∉ file) (k : Nat) :
    split '/' (deep name file k) = List.replicate k name ++ [file] := by
  induction k with
  | zero => exact split_of_not_mem hfile
  | succ k ih =>
      show split '/' (name ++ '/' :: deep name file k) = _
      rw [split_append_sep, split_of_not_mem hname, ih]
      rfl

/-- The file stands behind the last of the directories. -/
theorem deep_succ (k : Nat) : ∃ before, deep name file (k + 1) = before ++ (name ++ ['/']) ++ file ∧
    (before = [] ∨ ∃ front, before = front ++ ['/']) := by
  induction k with
  | zero => exact ⟨[], by simp [deep], Or.inl rfl⟩
  | succ k ih =>
      obtain ⟨before, heq, hbefore⟩ := ih
      refine ⟨name ++ ['/'] ++ before, ?_, Or.inr ?_⟩
      · show name ++ '/' :: deep name file (k + 1) = _
        rw [heq]
        simp
      · rcases hbefore with rfl | ⟨front, rfl⟩
        · exact ⟨name, by simp⟩
        · exact ⟨name ++ ['/'] ++ front, by simp⟩

theorem isRooted_deep (hname : Ordinary name) (hfile : Ordinary file) (k : Nat) :
    isRooted (deep name file k) = false := by
  cases k with
  | zero =>
      have h := hfile.isRooted []
      rwa [List.append_nil] at h
  | succ k => exact hname.isRooted ('/' :: deep name file k)

/-- From each of these places the reference leads one directory deeper. -/
theorem normalizeChars_deep (hname : Ordinary name) (hfile : Ordinary file) (k : Nat) :
    normalizeChars (directory (deep name file k) ++ '.' :: '/' :: deep name file 1)
      = deep name file (k + 1) := by
  have hbase : follow (directory (deep name file k)) = List.replicate k name := by
    rw [follow_directory, split_deep hname.flat hfile.flat, List.dropLast_concat,
      foldl_ordinary (fun s hs => by rw [List.eq_of_mem_replicate hs]; exact hname),
      List.reverse_replicate, List.append_nil]
  have hsplit : split '/' ('.' :: '/' :: deep name file 1) = [['.'], name] ++ [file] := by
    show split '/' (['.'] ++ '/' :: deep name file 1) = _
    rw [split_append_sep, split_deep hname.flat hfile.flat]
    rfl
  have hfollow : follow (directory (deep name file k) ++ '.' :: '/' :: deep name file 1)
      = file :: name :: List.replicate k name := by
    rw [follow_directory_append _ rfl, hsplit, hbase]
    show enter _ (enter _ (enter _ (List.replicate k name) ['.']) name) file = _
    rw [hfile.enter, hname.enter]
    rfl
  have hrooted : isRooted (directory (deep name file k) ++ '.' :: '/' :: deep name file 1)
      = false := by
    rw [isRooted_directory_append _ rfl, isRooted_deep hname hfile]
  have hnames : namesDirectory (directory (deep name file k) ++ '.' :: '/' :: deep name file 1)
      = false := by
    rw [namesDirectory_directory_append, namesDirectory_of_split hsplit]
    exact hfile
  -- Written down, the stack is the deeper path, because that is what is split into it.
  have hjoin := join_split '/' (deep name file (k + 1))
  rw [split_deep hname.flat hfile.flat] at hjoin
  rw [normalizeChars_eq, hrooted, hnames, hfollow, ← hjoin]
  simp [List.replicate_succ']

end Path

namespace Evaluation

open Search

/-- The identity of the module so many directories deep. -/
def place (name file : Path.Segment) (k : Nat) : String := String.ofList (Path.deep name file k)

/-- The module as it is known there. -/
def known (name file : Path.Segment) (text : String) (k : Nat) : Artifact :=
  ⟨place name file k, text⟩

/-- A packaged module, the dependency directory it can be found behind, and nothing in the
archive that could be found in its place. -/
structure Packaged (env : Environment) (name file : Path.Segment) (text : String) : Prop where
  marker : env.settings.dependencyMarker.toList = name ++ ['/']
  ordinaryName : Path.Ordinary name
  ordinaryFile : Path.Ordinary file
  plainName : Plain name
  plainFile : Plain file
  compiled : env.settings.compiledSuffix.toList <:+ file
  absent : ∀ k, env.archive.findFile (place name file k) = none
  opened : ∀ identity, openResource env (String.ofList file) identity
    = .ok (some ⟨identity, text⟩)

/-- The reference to the module as a dependency of its own. -/
def itself (name file : Path.Segment) : String :=
  String.ofList ('.' :: '/' :: Path.deep name file 1)

/-! ### One directory deeper -/

section Packaged

variable {env : Environment} {name file : Path.Segment} {text : String}

theorem length_place (k : Nat) : (place name file k).length = (Path.deep name file k).length :=
  String.length_ofList

theorem length_place_lt (k : Nat) : (place name file k).length < (place name file (k + 1)).length := by
  rw [length_place, length_place]
  exact Path.length_deep_lt k

theorem plain_place (h : Packaged env name file text) (k : Nat) : Plain (place name file k).toList := by
  unfold place
  rw [String.toList_ofList]
  induction k with
  | zero => exact h.plainFile
  | succ k ih =>
      have hslash : Plain ['/'] := ⟨by decide, by decide⟩
      exact h.plainName.append (hslash.append ih)

theorem isRelative_itself (name file : Path.Segment) :
    Reference.isRelative (itself name file) = true :=
  Reference.isRelative_iff.mpr ⟨['.'], Or.inl rfl, Path.deep name file 1, String.toList_ofList⟩

theorem clean_place (h : Packaged env name file text) (k : Nat) :
    Path.Clean (place name file k).toList := by
  refine ⟨plain_place h k, ?_⟩
  unfold place
  rw [String.toList_ofList, Path.split_deep h.ordinaryName.flat h.ordinaryFile.flat]
  intro s hs
  rcases List.mem_append.mp hs with hs | hs
  · rw [List.eq_of_mem_replicate hs]
    exact h.ordinaryName
  · rw [List.mem_singleton.mp hs]
    exact h.ordinaryFile

theorem isRelative_place (h : Packaged env name file text) (k : Nat) :
    Reference.isRelative (place name file k) = false :=
  Reference.isRelative_of_clean (clean_place h k)

theorem search_place (h : Packaged env name file text) (k : Nat) :
    search env (place name file (k + 1)) = .ok (some (known name file text (k + 1))) := by
  have hinner : innerName? env.settings.dependencyMarker (place name file (k + 1))
      = some (String.ofList file) := by
    obtain ⟨before, heq, hbefore⟩ : ∃ before, Path.deep name file (k + 1)
        = before ++ (name ++ ['/']) ++ file ∧ (before = [] ∨ ∃ front, before = front ++ ['/']) :=
      Path.deep_succ k
    have hboundary : before.reverse = [] ∨ before.reverse.head? = some '/' := by
      rcases hbefore with rfl | ⟨front, rfl⟩
      · exact Or.inl rfl
      · exact Or.inr (by simp)
    have hflat : '/' ∉ file.reverse := fun hmem => h.ordinaryFile.flat (List.mem_reverse.mp hmem)
    have hafter : afterMarker (name ++ ['/']) (file.reverse ++ (name ++ ['/']).reverse ++
        before.reverse) [] = some (file.reverse.reverse ++ []) :=
      afterMarker_flat hboundary file.reverse hflat []
    unfold innerName? place
    rw [h.marker, String.toList_ofList, heq, List.reverse_append, List.reverse_append,
      ← List.append_assoc, hafter, List.reverse_reverse, List.append_nil]
    rfl
  unfold search
  rw [h.absent (k + 1)]
  unfold candidates
  rw [hinner]
  show firstOf none ((fun () => openResource env (String.ofList file) _) :: _) = _
  unfold firstOf
  rw [h.opened]
  rfl

theorem resolve_itself (h : Packaged env name file text) (k : Nat) :
    Reference.resolve (place name file k) (itself name file) = .ok (place name file (k + 1)) := by
  rw [Reference.resolve_of_relative (Reference.isAbsolute_of_plain (plain_place h k))
    (isRelative_itself name file)]
  unfold itself place
  rw [String.toList_ofList, String.toList_ofList,
    Path.normalizeChars_deep h.ordinaryName h.ordinaryFile k]

/-- In the module the reference finds the module again, one directory deeper. -/
theorem findIn_itself (h : Packaged env name file text) {cache : RawCache} {k : Nat}
    (href : cache.get? (itself name file) = none)
    (hnext : cache.get? (place name file (k + 1)) = none) :
    findIn env cache (itself name file) none (some (known name file text k)) =
      keeping cache (place name file (k + 1)) (.ok (some (known name file text (k + 1)))) := by
  have hcontext : findInContext env cache (known name file text k) (itself name file) =
      keeping cache (place name file (k + 1)) (.ok (some (known name file text (k + 1)))) := by
    unfold findInContext
    rw [show (known name file text k).uri = place name file k from rfl, resolve_itself h k]
    simp only [Reference.isAbsolute_of_plain (plain_place h (k + 1)), Bool.false_eq_true, if_false]
    rw [findAlone_of_fresh hnext (isRelative_place h (k + 1)), search_place h k]
  rw [findIn_of_unbased href (isRelative_itself name file), findUnbased_some, hcontext, keeping_some]
  rfl

end Packaged

/-! ### And so on for ever -/

variable {σ : Type}

/-- Nothing has come to an end, and nothing is kept or running further down than so many
directories. -/
structure Shallow (name file : Path.Segment) (k : Nat) (state : Evaluation σ) : Prop where
  evaluated : state.evaluated = []
  stack : ∀ running ∈ state.stack, running.uri.length ≤ (place name file k).length
  kept : ∀ entry ∈ state.raw.entries, entry.1.length ≤ (place name file k).length ∧
    Reference.isRelative entry.1 = false

/-- The state when the module has begun to run so many directories deep. -/
def deeper (name file : Path.Segment) (text : String) (k : Nat) (state : Evaluation σ) :
    Evaluation σ :=
  { state with
    raw := ⟨state.raw.entries ++ [(place name file k, known name file text k)]⟩
    stack := known name file text k :: state.stack }

section Running

variable {env : Environment} {name file : Path.Segment} {text : String} {compiler : Compiler σ}
  {read : String → List ScriptLine} {k : Nat} {state : Evaluation σ}

theorem Shallow.get?_place (hstate : Shallow name file k state) :
    state.raw.get? (place name file (k + 1)) = none := by
  refine RawCache.get?_eq_none ?_
  intro entry hentry heq
  have hle := (hstate.kept entry hentry).1
  rw [heq] at hle
  exact absurd (length_place_lt k) (Nat.not_lt.mpr hle)

theorem Shallow.get?_itself (hstate : Shallow name file k state) :
    state.raw.get? (itself name file) = none := by
  refine RawCache.get?_eq_none ?_
  intro entry hentry heq
  have hrel := (hstate.kept entry hentry).2
  rw [heq, isRelative_itself] at hrel
  cases hrel

theorem Shallow.isEvaluated_place (hstate : Shallow name file k state) :
    state.isEvaluated (place name file (k + 1)) = false := by
  unfold isEvaluated
  rw [hstate.evaluated]
  rfl

/-- The guard goes by identities, and this one is longer than all that are running. -/
theorem Shallow.isRunning_place (hstate : Shallow name file k state) :
    state.isRunning (place name file (k + 1)) = false := by
  rw [isRunning_eq_false_iff]
  intro hmem
  obtain ⟨running, hrunning, heq⟩ := List.mem_map.mp hmem
  have hle := hstate.stack running hrunning
  rw [heq] at hle
  exact absurd (length_place_lt k) (Nat.not_lt.mpr hle)

theorem Shallow.deeper (hstate : Shallow name file k state) (h : Packaged env name file text) :
    Shallow name file (k + 1) (deeper name file text (k + 1) state) := by
  have hlonger : (place name file k).length ≤ (place name file (k + 1)).length :=
    Nat.le_of_lt (length_place_lt k)
  refine ⟨hstate.evaluated, ?_, ?_⟩
  · intro running hrunning
    rcases List.mem_cons.mp hrunning with rfl | hrunning
    · exact Nat.le_refl _
    · exact Nat.le_trans (hstate.stack running hrunning) hlonger
  · intro entry hentry
    rcases List.mem_append.mp hentry with hentry | hentry
    · obtain ⟨hle, hrel⟩ := hstate.kept entry hentry
      exact ⟨Nat.le_trans hle hlonger, hrel⟩
    · rw [List.mem_singleton.mp hentry]
      exact ⟨Nat.le_refl _, isRelative_place h (k + 1)⟩

/-- A script whose first load has no result has none. -/
theorem execute_scripted_none {load : Load σ} {specifier : String} {found : Found}
    {line : ScriptLine} {rest : List ScriptLine}
    (hread : read found.artifact.contents = line :: rest)
    (hfirst : load (state.push found.artifact) line.specifier line.base = none) :
    execute load (scripted read) state specifier found = none := by
  have hrun : perform load (runScript (line :: rest) (state.push found.artifact).host)
      (state.push found.artifact) = none := by
    unfold runScript perform
    simp only [hfirst]
  unfold execute scripted
  simp only [hread, hrun, Option.map_none]

/-- Where the module is found one directory deeper it runs there, and does not come to an end
if none of the runs it begins does. -/
theorem loadAndRun_deeper (hstate : Shallow name file k state) {specifier : String}
    {base : Option String}
    (hkind : env.settings.convention.kindOf specifier = .compiled)
    (hfind : findIn env state.raw specifier base state.context? =
      keeping state.raw (place name file (k + 1)) (.ok (some (known name file text (k + 1)))))
    {line : ScriptLine} {rest : List ScriptLine} (hread : read text = line :: rest) {limit : Nat}
    (hnested : ∀ n, n < limit → loadAndRun env ⟨compiler, some (scripted read)⟩ n
      (deeper name file text (k + 1) state) line.specifier line.base = none) :
    loadAndRun env ⟨compiler, some (scripted read)⟩ limit state specifier base = none := by
  have hkeeping : keeping state.raw (place name file (k + 1))
      (.ok (some (known name file text (k + 1)))) =
      (.ok (some ⟨known name file text (k + 1), some (.raw (place name file (k + 1)))⟩),
        (deeper name file text (k + 1) state).raw) := by
    unfold keeping RawCache.remember
    rw [hstate.get?_place]
    rfl
  have hresolve : resolve env ⟨compiler, some (scripted read)⟩ state specifier base =
      (.ok (some ⟨known name file text (k + 1), some (.raw (place name file (k + 1)))⟩),
        { state with raw := (deeper name file text (k + 1) state).raw }) := by
    unfold resolve OnDemand.executableIn
    rw [hfind, hkeeping]
  have hdue : due? env ⟨compiler, some (scripted read)⟩ specifier
      (resolve env ⟨compiler, some (scripted read)⟩ state specifier base) =
      some (scripted read, ⟨known name file text (k + 1), some (.raw (place name file (k + 1)))⟩) := by
    rw [hresolve]
    exact due?_eq_some_iff.mpr ⟨rfl, rfl, hkind, hstate.isEvaluated_place, hstate.isRunning_place⟩
  cases limit with
  | zero => exact loadAndRun_zero_due hdue
  | succ n =>
      rw [loadAndRun_succ_due hdue, hresolve]
      exact execute_scripted_none hread (hnested n (Nat.lt_succ_self n))

theorem suffix_deep (h : Packaged env name file text) (k : Nat) :
    env.settings.compiledSuffix.toList <:+ Path.deep name file k := by
  induction k with
  | zero => exact h.compiled
  | succ k ih => exact (ih.trans (List.suffix_cons _ _)).trans (List.suffix_append _ _)

/-- Once the module runs, its load of itself has no result at any limit. -/
theorem loadAndRun_itself (h : Packaged env name file text) {line : ScriptLine}
    {rest : List ScriptLine} (hread : read text = line :: rest)
    (hitself : line.specifier = itself name file) (hbase : line.base = none) :
    ∀ (limit k : Nat) (state : Evaluation σ), Shallow name file k state →
      state.context? = some (known name file text k) →
      loadAndRun env ⟨compiler, some (scripted read)⟩ limit state (itself name file) none
        = none := by
  have hkind : env.settings.convention.kindOf (itself name file) = .compiled := by
    refine SuffixConvention.kindOf_of_suffix ?_
    unfold itself
    rw [String.toList_ofList]
    exact (suffix_deep h 1).trans (List.suffix_append ['.', '/'] _)
  -- The limit gets smaller with every directory, whatever the module is known by.
  intro limit
  induction limit using Nat.strongRecOn with
  | ind limit ih =>
      intro k state hstate hcontext
      have hfind := findIn_itself h hstate.get?_itself hstate.get?_place
      rw [← hcontext] at hfind
      refine loadAndRun_deeper hstate hkind hfind hread ?_
      intro n hn
      rw [hitself, hbase]
      exact ih n hn (k + 1) _ (hstate.deeper h) rfl

/-- **A packaged module that first of all requires itself, as a dependency of its own, is never
done**: the load of it does not finish, and the guard does not stop it. -/
theorem load_endless (h : Packaged env name file text) {line : ScriptLine}
    {rest : List ScriptLine} (hread : read text = line :: rest)
    (hitself : line.specifier = itself name file) (hbase : line.base = none) (inner : σ) :
    ¬ Finishes ⟨compiler, some (scripted read)⟩ ⟨env, place name file 1, none⟩
      ({ host := inner } : Evaluation σ) := by
  have hstart : Shallow name file 0 ({ host := inner } : Evaluation σ) := by
    refine ⟨rfl, ?_, ?_⟩
    · intro running hrunning
      cases hrunning
    · intro entry hentry
      cases hentry
  have hkind : env.settings.convention.kindOf (place name file 1) = .compiled := by
    refine SuffixConvention.kindOf_of_suffix ?_
    unfold place
    rw [String.toList_ofList]
    exact suffix_deep h 1
  have hfind : findIn env {} (place name file 1) none none
      = keeping {} (place name file 1) (.ok (some (known name file text 1))) := by
    rw [findIn_of_fresh rfl (isRelative_place h 1), search_place h 0]
  rintro ⟨limit, hsome⟩
  have hnone : loadAndRun env ⟨compiler, some (scripted read)⟩ limit { host := inner }
      (place name file 1) none = none := by
    refine loadAndRun_deeper hstart hkind hfind hread ?_
    intro n hn
    rw [hitself, hbase]
    exact loadAndRun_itself h hread hitself hbase n 1 _ (hstart.deeper h) rfl
  rw [hnone] at hsome
  cases hsome

end Running

/-! ### When loads end -/

/-- **When the loads of scripts come to an end**, whatever is found where and whatever the
compiler is.  A load ends if and only if the identities under which modules run in it are of
bounded length, and if and only if modules run each other to a bounded depth.  That is so
wherever all that scripts load is clear.  It is not where a packaged module first of all
requires itself as a dependency of its own. -/
theorem script_loads_end (env : Environment) (read : String → List ScriptLine)
    (compiler : Compiler σ) (inner : σ) :
    let host : Host σ := ⟨compiler, some (scripted read)⟩
    (∀ (compile : CompileState σ) (evaluated : List String) (call : Call),
      let state : Evaluation σ := { toCompileState := compile, evaluated := evaluated }
      (Finishes host call state ↔ ∃ bound, ∀ u, RunsUnder host call state u → u.length ≤ bound) ∧
      (Finishes host call state ↔
        ∃ bound, ∀ m, Sees host call state m → m.state.depth ≤ bound)) ∧
    (∀ (name : Path.Segment) (room : Nat), ClearScripts env read compiler name room →
      ∀ calls : List Call,
        (∀ call ∈ calls, call.env = env ∧ Asks name room call.specifier call.base) →
        ∃ enough, ∀ limit, enough ≤ limit →
          (loadAll host limit calls { host := inner }).isSome = true) ∧
    (∀ (name file : Path.Segment) (text : String) (line : ScriptLine) (rest : List ScriptLine),
      Packaged env name file text → read text = line :: rest →
      line.specifier = itself name file → line.base = none →
      ¬ Finishes host ⟨env, place name file 1, none⟩ { host := inner }) := by
  intro host
  refine ⟨?_, ?_, ?_⟩
  · intro compile evaluated call
    exact (finishes_iff host call compile evaluated).2
  · intro name room hclear calls hcalls
    exact script_finishes hclear hcalls inner
  · intro name file text line rest h hread hitself hbase
    exact load_endless h hread hitself hbase inner

/-- A text that is the one specifier that its module requires. -/
def requires (text : String) : List ScriptLine :=
  [⟨text, none, fun
    | .ok (some _) => none
    | .ok none => some "not found"
    | .error e => some e.message⟩]

/-- A compiler that compiles nothing. -/
def noCompiler : Compiler Unit := fun state source =>
  .finish state (.error (.ofMessage source "no compiler"))

/-- Two modules of an archive that require each other. -/
def circle : Environment :=
  { archive := .ofFiles [("lib/a.js", "./b.js"), ("lib/b.js", "./a.js")] }

/-- A packaged module that requires itself as a dependency of its own. -/
def ownDependency : Environment :=
  { resources := ⟨[.memory [("pkg.js", "./node_modules/pkg.js".toUTF8)]]⟩ }

theorem clearScripts_circle :
    ClearScripts circle requires noCompiler "node_modules".toList 8 := by
  refine ⟨⟨rfl, by decide, by decide, ?_, ?_, by decide⟩, ?_, ?_, ?_⟩
  · exact ⟨⟨by decide, by decide⟩, by decide⟩
  · exact ⟨⟨by decide, by decide⟩, by decide⟩
  · intro provider hprovider
    cases hprovider
  · have hclear : ∀ text ∈ ["./b.js", "./a.js"],
        ReadsClear requires "node_modules".toList 8 text := by
      intro text htext line hline
      rw [List.mem_singleton.mp hline]
      refine ⟨?_, nofun⟩
      rcases List.mem_cons.mp htext with rfl | htext
      · exact ⟨⟨⟨by decide, by decide⟩, by decide⟩, fun _ => by decide⟩
      · rw [List.mem_singleton.mp htext]
        exact ⟨⟨⟨by decide, by decide⟩, by decide⟩, fun _ => by decide⟩
    have hfiles : circle.archive.files.map Prod.snd = ["./b.js", "./a.js"] := by rfl
    rintro text (⟨path, hpath⟩ | ⟨resource, bytes, hbytes, -⟩)
    · refine hclear text ?_
      rw [← hfiles]
      exact List.mem_map_of_mem hpath
    · cases hbytes
  · intro inner source text hresult
    cases hresult

theorem packaged_ownDependency :
    Packaged ownDependency "node_modules".toList "pkg.js".toList "./node_modules/pkg.js" := by
  refine ⟨rfl, ?_, ?_, ?_, ?_, by decide, fun _ => rfl, ?_⟩
  · exact ⟨by decide, by decide, by decide, by decide⟩
  · exact ⟨by decide, by decide, by decide, by decide⟩
  · exact ⟨by decide, by decide⟩
  · exact ⟨by decide, by decide⟩
  · intro identity
    have hopen : ownDependency.resources.openName ownDependency.files (String.ofList "pkg.js".toList)
        = .ok (some ⟨"./node_modules/pkg.js".toUTF8, none⟩) := by rfl
    unfold openResource
    rw [hopen]
    simp only [Artifact.ofBody, Text.Utf8.decode_toUTF8]
    rfl

/-- The two modules that require each other are done; the one that requires itself is not. -/
theorem script_loads_end_or_not :
    (∃ enough, ∀ limit, enough ≤ limit →
      (loadAll ⟨noCompiler, some (scripted requires)⟩ limit [⟨circle, "lib/a.js", none⟩]
        { host := () }).isSome = true) ∧
    ¬ Finishes ⟨noCompiler, some (scripted requires)⟩
      ⟨ownDependency, "node_modules/pkg.js", none⟩ { host := () } := by
  refine ⟨?_, ?_⟩
  · refine (script_loads_end circle requires noCompiler ()).2.1 _ _ clearScripts_circle _ ?_
    intro call hcall
    rw [List.mem_singleton.mp hcall]
    exact ⟨rfl, ⟨⟨⟨by decide, by decide⟩, by decide⟩, fun hrel => absurd hrel (by decide)⟩, nofun⟩
  · exact (script_loads_end ownDependency requires noCompiler ()).2.2 _ _ _ _ _
      packaged_ownDependency rfl rfl rfl

end Evaluation

end ModuleLoader
