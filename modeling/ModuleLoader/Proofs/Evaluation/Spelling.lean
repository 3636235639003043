/-
Modules that run under two spellings.

A file is one module for each spelling that it comes up under.  References lead to paths in
normal form, so in runs that steer clear of backslashes every other spelling is a text that was
asked for by a load, letter by letter.  That is what `Told` says of every moment of a history: of
the module that begins to run, of the sources that have been compiled, and of what they were
compiled to.

Normal form has one spelling for each file.  So if a file runs or is compiled a second time, one
of its two spellings was asked for as it stands (`oneSpelling_observeAll`).
-/
import ModuleLoader.Proofs.Compile.Shelves
import ModuleLoader.Proofs.Evaluation.Once
import ModuleLoader.Proofs.Evaluation.Trail
import ModuleLoader.Proofs.Search.History
import ModuleLoader.Proofs.Search.Spelling

namespace ModuleLoader.Evaluation

open Archive (Normal)
open OnDemand (compiled? Reaches Does answer_does)
open Search (Grounded Denotes HandsOut)

variable {σ : Type} {env : Environment} {host : Host σ} {start : Evaluation σ}
  {past : List (Moment σ)} {state : Evaluation σ}

/-! ### Spellings that come up -/

/-- A load has asked for the text. -/
def Asked (text : String) (past : List (Moment σ)) : Prop :=
  ∃ m ∈ past, ∃ env base, m.event = .load env text base

/-- No load has come with a backslash. -/
def Unslashed (past : List (Moment σ)) : Prop :=
  ∀ m ∈ past, ∀ env specifier base, m.event = .load env specifier base →
    '\\' ∉ specifier.toList ∧ ∀ origin ∈ base, '\\' ∉ origin.toList

/-- The logical path is in normal form or was asked for. -/
def Spelled (past : List (Moment σ)) (u : String) : Prop :=
  Reference.isAbsolute u = false → Normal u.toList ∨ Asked u past

/-- The logical path of a source is in normal form, or its module was asked for. -/
def SourceSpelled (env : Environment) (past : List (Moment σ)) (source : String) : Prop :=
  Reference.isAbsolute source = false → Normal source.toList ∨
    ∃ name, Asked name past ∧ env.settings.convention.sourceCounterpart name = some source

/-- The sources that have been compiled, and what they were compiled to, are spelled like that. -/
def SlotsSpelled (env : Environment) (past : List (Moment σ)) (state : CompileState σ) : Prop :=
  ∀ source artifact, compiled? state source = some artifact →
    SourceSpelled env past source ∧ Spelled past artifact.uri

/-- What is said of a moment in terms of those before it. -/
structure Told (env : Environment) (past : List (Moment σ)) (m : Moment σ) : Prop where
  started : ∀ u, m.event = .start u → Spelled past u
  slots : SlotsSpelled env (past ++ [m]) m.state.toCompileState

/-- What holds of the state after a history. -/
structure WellSpelled (env : Environment) (past : List (Moment σ)) (state : Evaluation σ) : Prop where
  grounded : Grounded env state.raw
  slots : SlotsSpelled env past state.toCompileState
  running : ∀ artifact ∈ state.stack, Spelled past artifact.uri

theorem Asked.mono {text : String} {later : List (Moment σ)} (h : Asked text past)
    (hpast : past <+: later) : Asked text later := by
  obtain ⟨m, hm, hload⟩ := h
  exact ⟨m, hpast.subset hm, hload⟩

theorem Spelled.mono {u : String} {later : List (Moment σ)} (h : Spelled past u)
    (hpast : past <+: later) : Spelled later u :=
  fun hlogical => (h hlogical).imp_right fun hasked => hasked.mono hpast

theorem SourceSpelled.mono {source : String} {later : List (Moment σ)}
    (h : SourceSpelled env past source) (hpast : past <+: later) :
    SourceSpelled env later source := by
  intro hlogical
  rcases h hlogical with hnormal | ⟨name, hasked, hname⟩
  · exact Or.inl hnormal
  · exact Or.inr ⟨name, hasked.mono hpast, hname⟩

theorem SlotsSpelled.mono {compile : CompileState σ} {later : List (Moment σ)}
    (h : SlotsSpelled env past compile) (hpast : past <+: later) :
    SlotsSpelled env later compile := by
  intro source artifact hslot
  obtain ⟨hsource, huri⟩ := h source artifact hslot
  exact ⟨hsource.mono hpast, huri.mono hpast⟩

theorem WellSpelled.mono {later : List (Moment σ)} (h : WellSpelled env past state)
    (hpast : past <+: later) : WellSpelled env later state :=
  ⟨h.grounded, h.slots.mono hpast, fun artifact hmem => (h.running artifact hmem).mono hpast⟩

/-- What is spelled like that has no backslashes if no load has. -/
theorem Spelled.unslashed {u : String} (h : Spelled past u) (hunslashed : Unslashed past)
    (hlogical : Reference.isAbsolute u = false) : '\\' ∉ u.toList := by
  rcases h hlogical with hnormal | ⟨m, hm, env, base, hload⟩
  · exact hnormal.backslash
  · exact (hunslashed m hm env u base hload).1

/-! ### One load -/

section Load

variable {specifier : String} {base : Option String}

theorem slash_of_counterpart (hendings : env.settings.convention.Endings) {counterpart : String}
    (hname : env.settings.convention.sourceCounterpart specifier = some counterpart)
    (h : '\\' ∉ specifier.toList) :
    '\\' ∉ counterpart.toList ∧ env.settings.convention.source.toList <:+ counterpart.toList := by
  obtain ⟨stem, rfl, rfl⟩ := SuffixConvention.exchange_eq_some_iff.mp hname
  rw [String.toList_append] at h ⊢
  refine ⟨?_, List.suffix_append _ _⟩
  intro hmem
  rcases List.mem_append.mp hmem with hmem | hmem
  · exact h (List.mem_append_left _ hmem)
  · exact hendings.sourcePlain.backslash hmem

/-- What a source is compiled to is spelled in normal form, like the source, or as it was asked
for. -/
theorem spelled_counterpart (hendings : env.settings.convention.Endings)
    (hasked : Asked specifier past) {source uri : String}
    (hsource : Reference.isAbsolute source = false → Normal source.toList ∨
      env.settings.convention.sourceCounterpart specifier = some source)
    (huri : uri = (env.settings.convention.compiledCounterpart source).getD specifier) :
    Spelled past uri := by
  intro hlogical
  rcases hname : env.settings.convention.compiledCounterpart source with _ | name
  · rw [huri, hname]
    exact Or.inr hasked
  · obtain rfl : uri = name := by rw [huri, hname, Option.getD_some]
    have hcounterpart := SuffixConvention.counterparts.mpr hname
    rw [← SuffixConvention.isAbsolute_sourceCounterpart hendings hcounterpart] at hlogical
    rcases hsource hlogical with hnormal | hspecifier
    · exact Or.inl (SuffixConvention.normal_of_sourceCounterpart hendings hcounterpart hnormal)
    · have hspecifier := SuffixConvention.counterparts.mp hspecifier
      rw [hname] at hspecifier
      rw [Option.some.inj hspecifier]
      exact Or.inr hasked

/-- One more slot is filled. -/
theorem SlotsSpelled.filled {before after : CompileState σ} (h : SlotsSpelled env past before)
    {source : String} {artifact : Artifact} (hsource : SourceSpelled env past source)
    (hmade : Spelled past artifact.uri)
    (hslots : ∀ u, compiled? after u = if u = source then some artifact else compiled? before u) :
    SlotsSpelled env past after := by
  intro other made hslot
  rw [hslots] at hslot
  by_cases hother : other = source
  · rw [if_pos hother] at hslot
    obtain rfl := Option.some.inj hslot
    rw [hother]
    exact ⟨hsource, hmade⟩
  · rw [if_neg hother] at hslot
    exact h other made hslot

section WellSpelled

variable (hendings : env.settings.convention.Endings) (h : WellSpelled env past state)
  (hunslashed : Unslashed past) (hspecifier : '\\' ∉ specifier.toList)
  (hbase : ∀ origin ∈ base, '\\' ∉ origin.toList)

include h hunslashed hspecifier hbase

/-- What a search finds is spelled in normal form or as it was asked for. -/
theorem WellSpelled.finds {cache : RawCache} (hg : Grounded env cache) {found : Found}
    (hfound : (Search.findIn env cache specifier base state.context?).1 = .ok (some found))
    (hlogical : Reference.isAbsolute found.artifact.uri = false) {ending : List Char}
    (hending : Path.Ending ending) (hsuffix : ending <:+ specifier.toList) :
    found.artifact.uri = specifier ∨ Normal found.artifact.uri.toList := by
  obtain ⟨name, hdenotes, hhands⟩ := Search.findIn_handsOut hg.labelled hfound
  have hknown := hhands.knownBy (hg.labelled.findIn specifier base state.context?)
  have huri := hknown.uri_eq hlogical
  rw [huri] at hlogical ⊢
  refine hdenotes.normal hlogical hspecifier hbase ?_ hending hsuffix
  intro running hrunning
  exact (h.running running (List.mem_of_mem_head? hrunning)).unslashed hunslashed

include hendings

theorem WellSpelled.reaches {source : String} {raw : RawCache}
    (hreach : Reaches ⟨env, specifier, base, state.context?⟩ state.raw source raw)
    (hlogical : Reference.isAbsolute source = false) :
    Normal source.toList ∨ env.settings.convention.sourceCounterpart specifier = some source := by
  obtain ⟨known, counterpart, found, hmiss, hname, hfound, rfl⟩ := hreach
  obtain ⟨hcounterpart, hsuffix⟩ := slash_of_counterpart hendings hname hspecifier
  have hknown := h.grounded.findIn specifier base state.context?
  rw [hmiss] at hknown
  rcases h.finds hunslashed hcounterpart hbase hknown (congrArg Prod.fst hfound) hlogical
    hendings.source hsuffix with heq | hnormal
  · rw [heq]
    exact Or.inr hname
  · exact Or.inl hnormal

/-- What a load finds or compiles is spelled in normal form or as it was asked for. -/
theorem WellSpelled.does (hasked : Asked specifier past) {after : CompileState σ} {outcome : Outcome}
    (hdoes : Does ⟨env, specifier, base, state.context?⟩ state.toCompileState after outcome) :
    SlotsSpelled env past after ∧
      ∀ found, outcome = .ok (some found) → env.settings.convention.kindOf specifier = .compiled →
        Spelled past found.artifact.uri := by
  cases hdoes with
  | found _ hslots hfind =>
      refine ⟨?_, ?_⟩
      · intro source artifact hslot
        exact h.slots source artifact (by rw [← hslots, hslot])
      · intro found hfound hkind hlogical
        have hsuffix := SuffixConvention.kindOf_eq_compiled_iff.mp hkind
        rcases h.finds hunslashed hspecifier hbase h.grounded (congrArg Prod.fst (hfind found hfound))
          hlogical hendings.compiled hsuffix with heq | hnormal
        · rw [heq]
          exact Or.inr hasked
        · exact Or.inl hnormal
  | again source artifact _ _ hslots hslot =>
      refine ⟨?_, ?_⟩
      · intro source artifact hslot
        exact h.slots source artifact (by rw [← hslots, hslot])
      · intro found hfound _
        cases hfound
        exact (h.slots source artifact hslot).2
  | made source artifact raw hreach huri _ hslots =>
      have hsource := h.reaches hendings hunslashed hspecifier hbase hreach
      have hmade := spelled_counterpart hendings hasked hsource huri
      refine ⟨h.slots.filled ?_ hmade hslots, ?_⟩
      · intro hlogical
        exact (hsource hlogical).imp_right fun hname => ⟨specifier, hasked, hname⟩
      · intro found hfound _
        cases hfound
        exact hmade

end WellSpelled

end Load

/-! ### Histories -/

theorem told_concat {m : Moment σ}
    (hpast : ∀ earlier n, earlier ++ [n] <+: past → Told env earlier n) (hm : Told env past m) :
    ∀ earlier n, earlier ++ [n] <+: past ++ [m] → Told env earlier n := by
  intro earlier n hprefix
  rcases List.prefix_concat_iff.mp hprefix with heq | hprefix
  · obtain ⟨rfl, hlast⟩ := List.append_inj' heq rfl
    rw [List.singleton_inj.mp hlast]
    exact hm
  · exact hpast earlier n hprefix

/-- A load keeps to the spellings, and so does the module that it comes to. -/
theorem WellSpelled.load (host : Host σ) (hendings : env.settings.convention.Endings)
    (h : WellSpelled env past state) {specifier : String} {base : Option String}
    (hunslashed : Unslashed (past ++ [⟨.load env specifier base, state⟩])) :
    Told env past ⟨.load env specifier base, state⟩ ∧
      WellSpelled env (past ++ [⟨.load env specifier base, state⟩])
        (resolve env host state specifier base).2 ∧
      ∀ runtime found,
        due? env host specifier (resolve env host state specifier base) = some (runtime, found) →
        Spelled (past ++ [⟨.load env specifier base, state⟩]) found.artifact.uri := by
  have hlater := h.mono (List.prefix_append past [⟨.load env specifier base, state⟩])
  have hmem : (⟨.load env specifier base, state⟩ : Moment σ)
      ∈ past ++ [⟨.load env specifier base, state⟩] := by simp
  have hasked : Asked specifier (past ++ [⟨.load env specifier base, state⟩]) :=
    ⟨_, hmem, env, base, rfl⟩
  obtain ⟨hspecifier, hbase⟩ := hunslashed _ hmem env specifier base rfl
  obtain ⟨hslots, hfound⟩ := hlater.does hendings hunslashed hspecifier hbase hasked
    (answer_does host.compiler state.toCompileState ⟨env, specifier, base, state.context?⟩)
  refine ⟨⟨?_, hlater.slots⟩, ⟨?_, hslots, hlater.running⟩, ?_⟩
  · intro u hstart
    cases hstart
  · exact OnDemand.executableIn_grounded host.compiler specifier base state.context? h.grounded
  · intro runtime found hdue
    obtain ⟨houtcome, -, hkind, -, -⟩ := due?_eq_some_iff.mp hdue
    exact hfound found houtcome hkind

theorem WellSpelled.push (h : WellSpelled env past state) {artifact : Artifact}
    (hspelled : Spelled past artifact.uri) : WellSpelled env past (state.push artifact) := by
  refine ⟨h.grounded, h.slots, ?_⟩
  intro running hmem
  rcases List.mem_cons.mp hmem with rfl | hmem
  · exact hspelled
  · exact h.running running hmem

theorem WellSpelled.leave (h : WellSpelled env past state) (depth : Nat) (specifier : String)
    (found : Found) (result : Except String Unit) :
    WellSpelled env past (leave depth specifier found result state).2 := by
  have hrunning : ∀ artifact ∈ state.stack.drop (state.stack.length - depth),
      Spelled past artifact.uri :=
    fun artifact hmem => h.running artifact (List.mem_of_mem_drop hmem)
  rcases result with cause | _
  · exact ⟨h.grounded, h.slots, hrunning⟩
  · exact ⟨h.grounded, h.slots, hrunning⟩

/-- **What comes up in a history is spelled in normal form or was asked for.** -/
theorem Trail.told (hendings : env.settings.convention.Endings)
    (h : Trail env host start past state) (hstart : WellSpelled env [] start)
    (hunslashed : Unslashed past) :
    (∀ earlier m, earlier ++ [m] <+: past → Told env earlier m) ∧ WellSpelled env past state := by
  induction h with
  | here =>
      refine ⟨?_, hstart⟩
      intro earlier m hprefix
      simp at hprefix
  | moved inner _ ih =>
      obtain ⟨htold, htidy⟩ := ih hunslashed
      exact ⟨htold, htidy.grounded, htidy.slots, htidy.running⟩
  | resolved specifier base _ ih =>
      obtain ⟨htold, htidy⟩ := ih fun m hm => hunslashed m (List.mem_append_left _ hm)
      obtain ⟨hload, hnext, -⟩ := htidy.load host hendings hunslashed
      exact ⟨told_concat htold hload, hnext⟩
  | @began past state specifier base runtime found _ hdue ih =>
      have hunslashed := fun m hm => hunslashed m (List.mem_append_left _ hm)
      obtain ⟨htold, htidy⟩ := ih fun m hm => hunslashed m (List.mem_append_left _ hm)
      obtain ⟨hload, hnext, hfound⟩ := htidy.load host hendings hunslashed
      have hspelled := hfound runtime found hdue
      have hlater := (hnext.push hspelled).mono (List.prefix_append _ [(⟨.start found.artifact.uri,
        (resolve env host state specifier base).2.push found.artifact⟩ : Moment σ)])
      refine ⟨told_concat (told_concat htold hload) ⟨?_, hlater.slots⟩, hlater⟩
      intro u hu
      obtain rfl := Event.start.inj hu
      exact hspelled
  | @left past state depth specifier found result _ ih =>
      obtain ⟨htold, htidy⟩ := ih fun m hm => hunslashed m (List.mem_append_left _ hm)
      have hlater := (htidy.leave depth specifier found result).mono (List.prefix_append _
        [(⟨.finish found.artifact.uri result,
          (leave depth specifier found result state).2⟩ : Moment σ)])
      refine ⟨told_concat htold ⟨?_, hlater.slots⟩, hlater⟩
      intro u hu
      cases hu

/-! ### Two spellings of one file -/

/-- One of two texts is not in normal form, and a load has asked for it as it stands. -/
def OddlyAsked (u v : String) (past : List (Moment σ)) : Prop :=
  (¬ Normal u.toList ∧ Asked u past) ∨ (¬ Normal v.toList ∧ Asked v past)

theorem oddlyAsked_of_spelled {u v : String} (hu : Normal u.toList ∨ Asked u past)
    (hv : Normal v.toList ∨ Asked v past) (hne : u ≠ v)
    (hform : Archive.normalForm u = Archive.normalForm v) : OddlyAsked u v past := by
  by_cases hnu : Normal u.toList
  · have hnv : ¬ Normal v.toList := fun hnv => hne (hnu.eq_of_normalForm_eq hnv hform)
    exact Or.inr ⟨hnv, hv.resolve_left hnv⟩
  · exact Or.inl ⟨hnu, hu.resolve_left hnu⟩

theorem SlotsSpelled.oddlyCompiled {state : CompileState σ} (h : SlotsSpelled env past state)
    {source other : String} {artifact artifact' : Artifact}
    (hslot : compiled? state source = some artifact) (hslot' : compiled? state other = some artifact')
    (hne : source ≠ other) (hsource : Reference.isAbsolute source = false)
    (hother : Reference.isAbsolute other = false)
    (hform : Archive.normalForm source = Archive.normalForm other) :
    ∃ name spelling, (spelling = source ∨ spelling = other) ∧ ¬ Normal spelling.toList ∧
      Asked name past ∧ env.settings.convention.sourceCounterpart name = some spelling := by
  by_cases hnormal : Normal source.toList
  · have hodd : ¬ Normal other.toList :=
      fun hnormal' => hne (hnormal.eq_of_normalForm_eq hnormal' hform)
    obtain ⟨name, hasked, hname⟩ := ((h other artifact' hslot').1 hother).resolve_left hodd
    exact ⟨name, other, Or.inr rfl, hodd, hasked, hname⟩
  · obtain ⟨name, hasked, hname⟩ := ((h source artifact hslot).1 hsource).resolve_left hnormal
    exact ⟨name, source, Or.inl rfl, hnormal, hasked, hname⟩

/-- A run that is open or has succeeded has begun. -/
theorem Agrees.exists_start {u : String} (ok : Agrees past state)
    (h : IsOpen u past ∨ HasSucceeded u past) :
    ∃ (earlier : List (Moment σ)) (m : Moment σ), earlier ++ [m] <+: past ∧ m.event = .start u := by
  have hcounts := ok.counts u
  have hpos : 0 < past.countP (·.event.isStart u) := by
    rcases h with hopen | ⟨m, hm, hfinish⟩
    · exact Nat.lt_of_le_of_lt (Nat.zero_le _) hopen
    · have hended : 0 < past.countP (·.event.isFinish u) := by
        refine List.countP_pos_iff.mpr ⟨m, hm, ?_⟩
        simp [hfinish, Event.isFinish]
      omega
  obtain ⟨m, hm, hstart⟩ := List.countP_pos_iff.mp hpos
  obtain ⟨earlier, later, rfl⟩ := List.append_of_mem hm
  refine ⟨earlier, m, ⟨later, by simp⟩, ?_⟩
  rcases hevent : m.event with _ | v | _
  · simp [hevent, Event.isStart] at hstart
  · simp only [hevent, Event.isStart, decide_eq_true_eq] at hstart
    rw [hstart]
  · simp [hevent, Event.isStart] at hstart

/-- What holds of a history if some file comes up under two spellings in it. -/
structure OneSpelling (env : Environment) (history : List (Moment σ)) : Prop where
  /-- A file that runs under one spelling while it is running, or when it has run well, under
  another: one of the two has been asked for, and it is not the path of the file. -/
  runs : ∀ (earlier : List (Moment σ)) (m : Moment σ) (u v : String),
    earlier ++ [m] <+: history → m.event = .start u →
    IsOpen v earlier ∨ HasSucceeded v earlier → Reference.isAbsolute u = false →
    Reference.isAbsolute v = false → Archive.normalForm u = Archive.normalForm v →
    OddlyAsked u v earlier
  /-- A source that has been compiled under two spellings: a module has been asked for whose
  source is one of the two, and that is not the path of the source. -/
  compiled : ∀ (earlier : List (Moment σ)) (m : Moment σ) (source other : String)
    (artifact artifact' : Artifact), earlier ++ [m] <+: history →
    compiled? m.state.toCompileState source = some artifact →
    compiled? m.state.toCompileState other = some artifact' → source ≠ other →
    Reference.isAbsolute source = false → Reference.isAbsolute other = false →
    Archive.normalForm source = Archive.normalForm other →
    ∃ name spelling, (spelling = source ∨ spelling = other) ∧ ¬ Normal spelling.toList ∧
      Asked name (earlier ++ [m]) ∧ env.settings.convention.sourceCounterpart name = some spelling

theorem oneSpelling_observeAll (hendings : env.settings.convention.Endings) (host : Host σ)
    (limit : Nat) {calls : List Call} (henv : ∀ call ∈ calls, call.env = env) (inner : σ)
    (hunslashed : Unslashed (observeAll host limit calls { host := inner }).history) :
    OneSpelling env (observeAll host limit calls { host := inner }).history := by
  have hstart : WellSpelled env [] ({ host := inner } : Evaluation σ) := by
    refine ⟨Search.grounded_empty env, ?_, ?_⟩
    · intro source artifact hslot
      cases hslot
    · intro artifact hmem
      cases hmem
  obtain ⟨last, htrail⟩ :=
    (observeAll_follows host { host := inner } limit henv [] _ .here).trail
  rw [List.nil_append] at htrail
  obtain ⟨htold, -⟩ := htrail.told hendings hstart hunslashed
  obtain ⟨ended, hpath⟩ := (tracks_observeAll host limit calls { host := inner }).path
  refine ⟨?_, ?_⟩
  · intro earlier m u v hprefix hbegin hbefore hu hv hform
    obtain ⟨later, hhistory⟩ := hprefix
    rw [List.append_assoc] at hhistory
    obtain ⟨before, hearlier, hstep⟩ := hpath.split hhistory.symm
    have hagrees := (Agrees.fresh { host := inner }).path hearlier
    have hne : u ≠ v := by
      rintro rfl
      obtain ⟨hopen, hsucceeded⟩ := hagrees.start hstep hbegin
      rcases hbefore with hbefore | hbefore
      · exact hopen hbefore
      · exact hsucceeded hbefore
    obtain ⟨past, n, hpast, hn⟩ := hagrees.exists_start hbefore
    have hwhole : earlier ++ [m] <+: (observeAll host limit calls { host := inner }).history :=
      ⟨later, by rw [← hhistory]; simp⟩
    have hspelled := (htold earlier m hwhole).started u hbegin hu
    have hspelled' := (htold past n (hpast.trans ((List.prefix_append earlier [m]).trans hwhole))
      ).started v hn
    have hlater := hspelled'.mono ((List.prefix_append past [n]).trans hpast) hv
    exact oddlyAsked_of_spelled hspelled hlater hne hform
  · intro earlier m source other artifact artifact' hprefix
    exact (htold earlier m hprefix).slots.oddlyCompiled

/-- **A file is one module for each spelling.**  Whatever has been found before, a file is known by
the spelling of its path that it was asked for by, so two spellings of a path give two identities.
From both the same relative references lead to the same modules if the spellings differ by no
more than dots at the beginning.  And in loads that come without backslashes a file runs or is
compiled under two spellings only if one of them was asked for as it stands, and is not the path
of the file. -/
theorem one_module_per_spelling (env : Environment) :
    (∀ past p q text, (∀ request ∈ past, request.env = env) →
      Reference.isAbsolute p = false → Reference.isAbsolute q = false →
      Archive.normalForm p = Archive.normalForm q → env.archive.findFile p = some text →
      ∃ shelf shelf',
        (Search.find env (Search.afterAll {} past) p none).1 = .ok (some ⟨⟨p, text⟩, shelf⟩) ∧
        (Search.find env (Search.afterAll {} past) q none).1 = .ok (some ⟨⟨q, text⟩, shelf'⟩)) ∧
    (∀ p q, Archive.Dotted p → Archive.Dotted q → Archive.normalForm p = Archive.normalForm q →
      ∀ specifier, Reference.isRelative specifier = true →
      Reference.resolve p specifier = Reference.resolve q specifier) ∧
    (env.settings.convention.Endings → ∀ (host : Host σ) limit calls inner,
      (∀ call ∈ calls, call.env = env) →
      Unslashed (observeAll host limit calls { host := inner }).history →
      OneSpelling env (observeAll host limit calls { host := inner }).history) := by
  refine ⟨?_, ?_, ?_⟩
  · intro past p q text henv hp hq hform hfile
    have hgrounded : Grounded env (Search.afterAll {} past) := Search.origin_afterAll henv
    obtain ⟨shelf, hfound⟩ := Search.find_spelling hgrounded hp hfile
    rw [env.archive.findFile_of_normalForm_eq hform] at hfile
    obtain ⟨shelf', hfound'⟩ := Search.find_spelling hgrounded hq hfile
    exact ⟨shelf, shelf', hfound, hfound'⟩
  · intro p q hp hq hform specifier hrel
    exact Archive.resolve_of_normalForm_eq hp hq hform hrel
  · intro hendings host limit calls inner henv hunslashed
    exact oneSpelling_observeAll hendings host limit henv inner hunslashed

/-! ### A circle that is entered under another spelling -/

/-- Two modules that require each other. -/
def pair : Environment :=
  { archive := .ofFiles [("main.js", "./lib/dep.js"), ("lib/dep.js", "../main.js")] }

/-- A host whose modules load what their texts name. -/
def following : Host Unit :=
  ⟨fun state name => .finish state (.ok name), some fun state artifact _ =>
    .load state artifact.contents none fun state _ => .finish state (.ok ())⟩

/-- What is seen when the first of them is loaded under another spelling of its path. -/
def seenPair : Observed Unit (List Outcome × Evaluation Unit) :=
  observeAll following 4 [⟨pair, "./main.js", none⟩] { host := () }

theorem events_seenPair : seenPair.history.map (·.event) =
    [.load pair "./main.js" none, .start "./main.js", .load pair "./lib/dep.js" none,
      .start "lib/dep.js", .load pair "../main.js" none, .start "main.js",
      .load pair "./lib/dep.js" none, .finish "main.js" (.ok ()), .finish "lib/dep.js" (.ok ()),
      .finish "./main.js" (.ok ())] := by
  rfl

theorem unslashed_seenPair : Unslashed seenPair.history := by
  intro m hm env specifier base hload
  have hmem := List.mem_map_of_mem (f := fun m : Moment Unit => m.event) hm
  rw [events_seenPair, hload] at hmem
  simp only [List.mem_cons, Event.load.injEq, reduceCtorEq, false_or, List.not_mem_nil,
    or_false] at hmem
  rcases hmem with ⟨-, rfl, rfl⟩ | ⟨-, rfl, rfl⟩ | ⟨-, rfl, rfl⟩ | ⟨-, rfl, rfl⟩
  · exact ⟨by decide, by simp⟩
  · exact ⟨by decide, by simp⟩
  · exact ⟨by decide, by simp⟩
  · exact ⟨by decide, by simp⟩

/-- The file that runs begins to run again. -/
theorem again_seenPair : ∃ (earlier : List (Moment Unit)) (m : Moment Unit),
    earlier ++ [m] <+: seenPair.history ∧ m.event = .start "main.js" ∧ IsOpen "./main.js" earlier := by
  have hevents : seenPair.history.map (·.event) =
      ([.load pair "./main.js" none, .start "./main.js", .load pair "./lib/dep.js" none,
        .start "lib/dep.js", .load pair "../main.js" none] : List Event) ++
      (.start "main.js" :: [.load pair "./lib/dep.js" none, .finish "main.js" (.ok ()),
        .finish "lib/dep.js" (.ok ()), .finish "./main.js" (.ok ())] : List Event) := events_seenPair
  obtain ⟨earlier, rest, hhistory, hearlier, hrest⟩ := List.map_eq_append_iff.mp hevents
  obtain ⟨m, later, rfl, hm, -⟩ := List.map_eq_cons_iff.mp hrest
  have hprefix : earlier ++ [m] <+: seenPair.history := by
    rw [hhistory]
    exact ⟨later, by simp⟩
  refine ⟨earlier, m, hprefix, hm, ?_⟩
  have hcount : ∀ counts : Event → Bool,
      earlier.countP (fun m => counts m.event) = (earlier.map (·.event)).countP counts :=
    fun counts => (List.countP_map (p := counts)).symm
  unfold IsOpen
  rw [hcount (Event.isFinish "./main.js"), hcount (Event.isStart "./main.js"), hearlier]
  decide

/-- Both spellings find the file and lead to the same neighbour, and the file runs again while
it is running because it was asked for as `./main.js`. -/
theorem one_module_per_spelling_pair :
    (∃ shelf shelf',
      (Search.find pair (Search.afterAll {} [⟨pair, "lib/dep.js", none, none⟩]) "./main.js" none).1
        = .ok (some ⟨⟨"./main.js", "./lib/dep.js"⟩, shelf⟩) ∧
      (Search.find pair (Search.afterAll {} [⟨pair, "lib/dep.js", none, none⟩]) "main.js" none).1
        = .ok (some ⟨⟨"main.js", "./lib/dep.js"⟩, shelf'⟩)) ∧
    Reference.resolve "./main.js" "./lib/dep.js" = Reference.resolve "main.js" "./lib/dep.js" ∧
    ∃ (earlier : List (Moment Unit)) (m : Moment Unit),
      earlier ++ [m] <+: seenPair.history ∧ m.event = .start "main.js" ∧
      IsOpen "./main.js" earlier ∧ OddlyAsked "main.js" "./main.js" earlier := by
  obtain ⟨hfound, hresolve, hruns⟩ := one_module_per_spelling (σ := Unit) pair
  have hdotted : ∀ path : String, path = "./main.js" ∨ path = "main.js" → Archive.Dotted path := by
    rintro path (rfl | rfl)
    · exact ⟨by decide, fun front heq => by simpa using congrArg List.getLast? heq, by rfl, by rfl⟩
    · exact ⟨by decide, fun front heq => by simpa using congrArg List.getLast? heq, by rfl, by rfl⟩
  refine ⟨hfound _ "./main.js" "main.js" "./lib/dep.js" (by simp) (by rfl) (by rfl) (by rfl)
    (by rfl), ?_, ?_⟩
  · exact hresolve _ _ (hdotted _ (Or.inl rfl)) (hdotted _ (Or.inr rfl)) (by rfl) _ (by decide)
  · obtain ⟨earlier, m, hprefix, hstart, hopen⟩ := again_seenPair
    have hone := hruns (by decide) following 4 [⟨pair, "./main.js", none⟩] () (by simp)
      unslashed_seenPair
    exact ⟨earlier, m, hprefix, hstart, hopen,
      hone.runs earlier m _ _ hprefix hstart (Or.inl hopen) (by rfl) (by rfl) (by rfl)⟩

/-- Two spellings of one path do not come to one identity, and a file that is running is entered
again. -/
theorem pair_entered_again :
    (¬ ∀ p q, Archive.normalForm p = Archive.normalForm q →
      (Search.find pair {} p none).1.map (·.map (·.artifact.uri))
        = (Search.find pair {} q none).1.map (·.map (·.artifact.uri))) ∧
    ¬ ∀ (earlier : List (Moment Unit)) (m : Moment Unit) (u v : String),
      earlier ++ [m] <+: seenPair.history → m.event = .start u →
      IsOpen v earlier → Archive.normalForm u ≠ Archive.normalForm v := by
  refine ⟨?_, ?_⟩
  · intro hsame
    have heq := hsame "./main.js" "main.js" (by rfl)
    have hdots : (Search.find pair {} "./main.js" none).1.map (·.map (·.artifact.uri))
        = .ok (some "./main.js") := by rfl
    have hpath : (Search.find pair {} "main.js" none).1.map (·.map (·.artifact.uri))
        = .ok (some "main.js") := by rfl
    rw [hdots, hpath] at heq
    simp at heq
  · intro hnever
    obtain ⟨earlier, m, hprefix, hstart, hopen⟩ := again_seenPair
    exact hnever earlier m _ _ hprefix hstart hopen (by rfl)

end ModuleLoader.Evaluation
