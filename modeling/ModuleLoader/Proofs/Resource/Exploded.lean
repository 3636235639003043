/-
Files unpacked in a directory, and the same files in memory.

A directory follows a name, so it answers every spelling that leads to one of its files: `./` and
repeated slashes do not count.  In memory a file is known by its path alone.  The two answer a name
alike exactly if every file that the plain names spell is spelled so by the name itself and can be
followed to (`openName_alike_iff`), and they do for a name whose parts all count, as long as it is
not too long (`alike_of_plain`).

So in a row of providers one may stand for the other in every search that comes across such names
only (`unpacked_or_embedded`).
-/
import ModuleLoader.Proofs.Resource.Directory
import ModuleLoader.Proofs.Search.Candidates

namespace ModuleLoader.Provider

open FileTree (EndsInName Leads NoLinksBelow ahead joinPath names plainNames)
open Search (Candidate LooksUp candidatesOf)
open Text

/-! ### Files in memory -/

/-- Files in memory under their paths. -/
def embedded (files : List (List String × ByteArray)) : Provider :=
  .memory (files.map fun file => ("/".intercalate file.1, file.2))

/-- A path from one directory to another or to a file. -/
structure LeadsDown (path : List String) : Prop where
  nonempty : path ≠ []
  leads : ∀ name ∈ path, Leads name
  flat : ∀ name ∈ path, '/' ∉ name.toList

theorem LeadsDown.names_intercalate {path : List String} (h : LeadsDown path) :
    names ("/".intercalate path) = path := by
  have hsplit : split '/' (join '/' (path.map String.toList)) = path.map String.toList := by
    refine split_join (by simpa using h.nonempty) fun piece hpiece => ?_
    obtain ⟨name, hname, rfl⟩ := List.mem_map.mp hpiece
    exact h.flat name hname
  unfold names
  rw [String.toList_intercalate]
  show List.map String.ofList (split '/' (List.intercalate ['/'] _)) = path
  rw [FileTree.intercalate_eq_join, hsplit, List.map_map]
  exact (List.map_congr_left fun name _ => String.ofList_toList).trans (List.map_id path)

theorem LeadsDown.plainNames_eq {path : List String} (h : LeadsDown path) : plainNames path = path :=
  List.filter_eq_self.mpr fun name hname => by
    simpa using ⟨(h.leads name hname).nonempty, (h.leads name hname).notDot⟩

theorem LeadsDown.up {path : List String} (h : LeadsDown path) : ".." ∉ path :=
  fun hmem => (h.leads ".." hmem).notUp rfl

theorem LeadsDown.endsInName {path : List String} (h : LeadsDown path) : EndsInName path :=
  fun name hlast => h.leads name (List.mem_of_getLast? hlast)

/-- A path that leads down does not start at the root. -/
theorem LeadsDown.isRooted {name : String} (h : LeadsDown (names name)) :
    FileTree.isRooted name = false := by
  have hnames := h.leads
  unfold FileTree.isRooted
  unfold names at hnames
  rcases hchars : name.toList with _ | ⟨c, rest⟩
  · rfl
  · refine decide_eq_false fun hhead => ?_
    obtain rfl := Option.some.inj hhead
    rw [hchars, split_cons_self] at hnames
    exact (hnames _ List.mem_cons_self).nonempty rfl

/-- A file in memory is found under its path. -/
theorem lookup_embedded {name : String} : ∀ {files : List (List String × ByteArray)},
    (∀ file ∈ files, LeadsDown file.1) →
    List.lookup name (files.map fun file => ("/".intercalate file.1, file.2))
      = files.lookup (names name) := by
  intro files
  induction files with
  | nil => exact fun _ => rfl
  | cons file rest ih =>
      intro hfiles
      have hpath := hfiles file List.mem_cons_self
      have hsame : (name == "/".intercalate file.1) = (names name == file.1) := by
        rw [Bool.eq_iff_iff, beq_iff_eq, beq_iff_eq]
        refine ⟨fun h => ?_, fun h => ?_⟩
        · rw [h, hpath.names_intercalate]
        · rw [← h, FileTree.intercalate_names]
      rw [List.map_cons, List.lookup_cons, List.lookup_cons, hsame,
        ih fun other hother => hfiles other (List.mem_cons_of_mem _ hother)]

/-! ### Files in a directory -/

/-- A directory holds these files and no others, and no links. -/
structure Unpacked (tree : FileTree) (root : String) (location : FileTree.Location)
    (files : List (List String × ByteArray)) : Prop where
  leads : tree.stat (names root) = .ok (location, .directory)
  paths : ∀ file ∈ files, LeadsDown file.1
  holds : ∀ path bytes, tree.entry? (location ++ path) = some (.file bytes) ↔ (path, bytes) ∈ files
  /-- A file lies in a directory, and so does this, up to the one that holds them all. -/
  directories : ∀ file ∈ files, ∀ way, way <+: file.1 → way ≠ file.1 →
    tree.entry? (location ++ way) = some .directory
  noLinks : NoLinksBelow tree location

/-- The system follows a name to a file below a directory: the name stays there, a name of a file
comes last in it, and neither it nor a part of it is too long. -/
structure Followed (root name : String) : Prop where
  contained : Contained name
  ends : EndsInName (names name)
  allowed : FileTree.Allowed (names (joinPath root name))
  fits : ∀ part ∈ plainNames (names name), part.utf8ByteSize ≤ FileTree.nameLimit

/-- A directory and the same files in memory answer a name alike. -/
def Alike (root : String) (files : List (List String × ByteArray)) (name : String) : Prop :=
  ∀ file ∈ files, plainNames (names name) = file.1 → (names name = file.1 ↔ Followed root name)

/-- Where every part of a name counts, all that matters is that the system takes it. -/
theorem alike_of_plain {root name : String} {files : List (List String × ByteArray)}
    (hfiles : ∀ file ∈ files, LeadsDown file.1) (hplain : plainNames (names name) = names name)
    (hallowed : FileTree.Allowed (names (joinPath root name)))
    (hfits : ∀ part ∈ names name, part.utf8ByteSize ≤ FileTree.nameLimit) :
    Alike root files name := by
  intro file hfile hspells
  have heq : names name = file.1 := hplain.symm.trans hspells
  have hnames : LeadsDown (names name) := by
    rw [heq]
    exact hfiles file hfile
  refine iff_of_true heq ⟨⟨hnames.isRooted, hnames.up⟩, hnames.endsInName, hallowed, ?_⟩
  rw [hplain]
  exact hfits

namespace Unpacked

variable {tree : FileTree} {root name : String} {location : FileTree.Location}
  {files : List (List String × ByteArray)} {path : List String} {bytes : ByteArray}
  (h : Unpacked tree root location files)

include h

theorem mem_unique {other : ByteArray} (hfile : (path, bytes) ∈ files)
    (hother : (path, other) ∈ files) : bytes = other := by
  have hheld := (h.holds path bytes).mpr hfile
  rw [(h.holds path other).mpr hother, Option.some.injEq, FileEntry.file.injEq] at hheld
  exact hheld.symm

theorem lookup_eq_some_iff : files.lookup path = some bytes ↔ (path, bytes) ∈ files := by
  refine ⟨mem_of_lookup, fun hfile => ?_⟩
  rcases hlookup : files.lookup path with _ | other
  · exact absurd (beq_self_eq_true path) (by simpa using List.lookup_eq_none_iff.mp hlookup _ hfile)
  · rw [h.mem_unique hfile (mem_of_lookup hlookup)]

/-- What is found in the directory is what is followed to. -/
theorem fileAt_eq_some_iff (hname : Contained name) :
    fileAt tree (names (joinPath root name)) = some bytes ↔
      Followed root name ∧ (plainNames (names name), bytes) ∈ files := by
  obtain ⟨-, hroot⟩ := FileTree.locate_eq_ok_iff.mp (FileTree.stat_eq_ok_iff.mp h.leads).1
  obtain ⟨left, hleft⟩ := FileTree.walk_ahead hroot
  have hnames := FileTree.names_joinPath hname.relative root
  refine ⟨fun hfile => ?_, fun ⟨hfollowed, hmem⟩ => ?_⟩
  · have hheld := entry?_of_fileAt h.leads h.noLinks hname hfile
    obtain ⟨place, hstat⟩ := Provider.fileAt_eq_some_iff.mp hfile
    obtain ⟨hlocate, hentry⟩ := FileTree.stat_eq_ok_iff.mp hstat
    obtain ⟨hallowed, hwalks⟩ := FileTree.locate_eq_ok_iff.mp hlocate
    rw [hnames, ← FileTree.walk_eq_ok_iff, hleft _ (FileTree.names_ne_nil name),
      FileTree.walk_eq_ok_iff] at hwalks
    refine ⟨⟨hname, fun last hlast => ?_, hallowed, fun part hpart => ?_⟩,
      (h.holds _ _).mp hheld⟩
    · -- An empty name or `.` at the end would have found a directory.
      rcases FileTree.name_cases last with hstay | rfl | hleads
      · obtain ⟨front, hfront⟩ := List.getLast?_eq_some_iff.mp hlast
        have hdirectory := (hwalks.dropStay hfront hstay rfl).2
        rw [hentry] at hdirectory
        cases hdirectory
      · exact absurd (List.mem_of_getLast? hlast) hname.down
      · exact hleads
    · exact ((hwalks.descends h.noLinks hname.down rfl).2 part hpart).short
  · have hpath := h.paths _ hmem
    have hisName : ∀ part ∈ plainNames (names name), FileTree.IsName part := fun part hpart =>
      have hleads := hpath.leads part hpart
      ⟨hleads.nonempty, hleads.notDot, hleads.notUp, hfollowed.fits part hpart⟩
    have hheld := (h.holds _ _).mpr hmem
    have hwalks := FileTree.walks_down true left hname.down hfollowed.ends hisName
      (h.directories _ hmem) hheld nofun
    rw [← FileTree.walk_eq_ok_iff, ← hleft _ (FileTree.names_ne_nil name), ← hnames,
      FileTree.walk_eq_ok_iff] at hwalks
    exact Provider.fileAt_eq_some_iff.mpr ⟨_, FileTree.stat_eq_ok_iff.mpr
      ⟨FileTree.locate_eq_ok_iff.mpr ⟨hfollowed.allowed, hwalks⟩, hheld⟩⟩

theorem openName_embedded (other : FileTree) (name : String) :
    openName other name (embedded files)
      = .ok ((files.lookup (names name)).map fun bytes => ⟨bytes, none⟩) := by
  unfold embedded openName
  simp only [lookup_embedded h.paths]

/-- What the directory answers is what is in memory under the plain names, if it is followed to. -/
theorem bind_locate_eq_some_iff :
    ((locate root name).bind fun located => fileAt tree (names located)) = some bytes ↔
      Followed root name ∧ (plainNames (names name), bytes) ∈ files := by
  by_cases hname : Contained name
  · rw [locate_of_contained hname, Option.bind_some]
    exact h.fileAt_eq_some_iff hname
  · rw [locate_of_not_contained hname]
    exact ⟨nofun, fun hboth => absurd hboth.1.contained hname⟩

/-- **The directory and the files in memory answer a name alike exactly if it is spelled as the file
is and can be followed to**, or leads to no file. -/
theorem openName_alike_iff :
    openName tree name (.directory root) = openName tree name (embedded files) ↔
      Alike root files name := by
  rw [openName_directory, h.openName_embedded, Except.ok.injEq]
  have hinjective : Function.Injective fun bytes : ByteArray => (⟨bytes, none⟩ : Body) :=
    fun bytes other heq => (Body.mk.inj heq).1
  rw [(Option.map_injective hinjective).eq_iff, Option.ext_iff]
  simp only [h.bind_locate_eq_some_iff, h.lookup_eq_some_iff]
  constructor
  · rintro hsame ⟨path, bytes⟩ hfile rfl
    have hbytes := hsame bytes
    refine ⟨fun heq => ?_, fun hfollowed => ?_⟩
    · rw [heq] at hbytes
      exact (hbytes.mpr hfile).1
    · have hplain := hbytes.mp ⟨hfollowed, hfile⟩
      exact (h.paths _ hplain).plainNames_eq.symm
  · intro halike bytes
    refine ⟨fun ⟨hfollowed, hfile⟩ => ?_, fun hfile => ?_⟩
    · rwa [(halike _ hfile rfl).mpr hfollowed]
    · have hplain := (h.paths _ hfile).plainNames_eq
      refine ⟨(halike _ hfile hplain).mp rfl, ?_⟩
      rwa [hplain]

end Unpacked

/-! ### In a row of providers -/

/-- A provider may be replaced by one that answers a name alike. -/
theorem openName_replaced {tree : FileTree} {name : String} {provider other : Provider}
    (h : openName tree name provider = openName tree name other) (before after : List Provider) :
    (ResourceSpace.mk (before ++ other :: after)).openName tree name
      = (ResourceSpace.mk (before ++ provider :: after)).openName tree name := by
  rw [ResourceSpace.openName_eq_verdict, ResourceSpace.openName_eq_verdict]
  unfold ResourceSpace.replies
  rw [List.map_append, List.map_append, List.map_cons, List.map_cons, h]

/-- **A directory and the same files in memory answer the same names alike, and no others, and one may
stand for the other among the providers.**  A search that comes across names that they answer alike
finds the same, and leaves the same behind. -/
theorem unpacked_or_embedded {tree : FileTree} {root : String} {location : FileTree.Location}
    {files : List (List String × ByteArray)} (h : Unpacked tree root location files) :
    (∀ name, openName tree name (.directory root) = openName tree name (embedded files) ↔
      Alike root files name) ∧
    ∀ (env : Environment) (before after : List Provider) (cache : RawCache) (specifier : String)
      (base : Option String), env.files = tree →
      env.resources = ⟨before ++ .directory root :: after⟩ →
      (∀ name, LooksUp env cache specifier base name →
        ∀ candidate ∈ candidatesOf env.settings name, ∀ resource,
          candidate.resource? = some resource → Alike root files resource) →
      Search.find { env with resources := ⟨before ++ embedded files :: after⟩ } cache specifier base
        = Search.find env cache specifier base := by
  refine ⟨fun name => h.openName_alike_iff, ?_⟩
  intro env before after cache specifier base hfiles hresources halike
  refine Search.find_congr fun name hname =>
    Search.search_congr fun candidate hmem resource hmeans => ?_
  rw [hfiles, hresources]
  exact openName_replaced
    (h.openName_alike_iff.mpr (halike name hname candidate hmem resource hmeans)) before after

/-- The file in the directory of resources. -/
def libFiles : List (List String × ByteArray) := [(["lib", "a.js"], "a".toUTF8)]

theorem unpacked_lib : Unpacked unpackedLib "deps" ["deps"] libFiles := by
  have hpath : LeadsDown ["lib", "a.js"] := by
    refine ⟨by decide, fun name hname => ?_, by decide⟩
    rcases hname with _ | ⟨_, _ | ⟨_, hname⟩⟩
    · exact ⟨by decide, by decide, by decide⟩
    · exact ⟨by decide, by decide, by decide⟩
    · cases hname
  refine ⟨stat_unpackedLib, fun file hfile => ?_, fun path bytes => ⟨fun hheld => ?_, fun hfile => ?_⟩,
    fun file hfile way hway hne => ?_, linkless_unpackedLib.noLinksBelow _⟩
  · rw [List.mem_singleton.mp hfile]
    exact hpath
  · have hmem := FileTree.mem_of_entry? (List.append_ne_nil_of_left_ne_nil (by decide) path) hheld
    simpa [unpackedLib, libFiles] using hmem
  · cases List.mem_singleton.mp hfile
    rfl
  · rw [List.mem_singleton.mp hfile] at hway hne
    have hways : ∀ way ∈ ["lib", "a.js"].inits, way ≠ ["lib", "a.js"] →
        unpackedLib.entry? (["deps"] ++ way) = some .directory := by decide
    exact hways way ((List.mem_inits _ _).mpr hway) hne

/-- A loader of modules that has only one provider to ask. -/
def asking (settings : Settings) (provider : Provider) : Environment :=
  { settings := settings, resources := ⟨[provider]⟩, files := unpackedLib }

/-- Every name that is asked for a module is spelled as it stands. -/
theorem unpacked_or_embedded_lib :
    Unpacked unpackedLib "deps" ["deps"] libFiles ∧ Alike "deps" libFiles "lib/a.js" ∧
      openName unpackedLib "lib/a.js" (.directory "deps")
        = openName unpackedLib "lib/a.js" (embedded libFiles) ∧
      Search.find (asking {} (embedded libFiles)) {} "lib/a.js" none
        = Search.find (asking {} (.directory "deps")) {} "lib/a.js" none := by
  have hinner : Search.innerName? "node_modules/" "lib/a.js" = none :=
    Search.innerName?_eq_none (c := 'n') (by decide) (by decide)
  have halike : ∀ resource ∈ ["node_modules/lib/a.js", ".atomist/node_modules/lib/a.js", "lib/a.js"],
      Alike "deps" libFiles resource := by
    intro resource hresource
    have hplain : ∀ resource ∈
        ["node_modules/lib/a.js", ".atomist/node_modules/lib/a.js", "lib/a.js"],
        plainNames (names resource) = names resource ∧
        ((names (joinPath "deps" resource)).any fun name => name.toList.contains '\x00') = false ∧
        FileTree.writtenLength (names (joinPath "deps" resource)) ≤ FileTree.pathLimit ∧
        ∀ part ∈ names resource, part.utf8ByteSize ≤ FileTree.nameLimit := by decide
    obtain ⟨hnames, hzero, hshort, hfits⟩ := hplain resource hresource
    exact alike_of_plain unpacked_lib.paths hnames ⟨hzero, hshort⟩ hfits
  have hasked : ∀ name, LooksUp (asking {} (.directory "deps")) {} "lib/a.js" none name →
      ∀ candidate ∈ candidatesOf (asking {} (.directory "deps")).settings name, ∀ resource,
        candidate.resource? = some resource → Alike "deps" libFiles resource := by
    rintro name (_ | hbase | hbase) candidate hmem resource hmeans
    · have hcandidates : candidatesOf {} "lib/a.js" = [.file "lib/a.js",
          .resource "node_modules/lib/a.js" "lib/a.js" "node_modules/lib/a.js",
          .resource ".atomist/node_modules/lib/a.js" "lib/a.js" ".atomist/node_modules/lib/a.js",
          .resource "lib/a.js" "lib/a.js" "lib/a.js"] := by
        unfold candidatesOf
        rw [Search.pathCandidates_of_plain hinner]
        decide
      refine halike resource ?_
      have hresource : some resource ∈ (candidatesOf {} "lib/a.js").map Candidate.resource? :=
        List.mem_map.mpr ⟨candidate, hmem, hmeans⟩
      rw [hcandidates] at hresource
      simpa [Candidate.resource?] using hresource
    · cases hbase
    · cases hbase
  have hlib := halike "lib/a.js" (by decide)
  obtain ⟨hopens, hfinds⟩ := unpacked_or_embedded unpacked_lib
  exact ⟨unpacked_lib, hlib, (hopens _).mpr hlib,
    hfinds (asking {} (.directory "deps")) [] [] {} "lib/a.js" none rfl rfl hasked⟩

/-- **Another spelling of the name is found in the directory but not in memory**, by itself and in
the search for a module. -/
theorem openName_respelled :
    Unpacked unpackedLib "deps" ["deps"] libFiles ∧
      openName unpackedLib "./lib//a.js" (.directory "deps") = .ok (some ⟨"a".toUTF8, none⟩) ∧
      openName unpackedLib "./lib//a.js" (embedded libFiles) = .ok none ∧
      (let settings : Settings := { packageRoots := [] }
      (Search.find (asking settings (.directory "deps")) {} "./lib//a.js" none).1
          = .ok (some ⟨⟨"./lib//a.js", "a"⟩, none⟩) ∧
        (Search.find (asking settings (embedded libFiles)) {} "./lib//a.js" none).1 = .ok none) := by
  have hmemory : openName unpackedLib "./lib//a.js" (embedded libFiles) = .ok none := by
    rw [unpacked_lib.openName_embedded]
    rfl
  have hinner : Search.innerName? "node_modules/" "./lib//a.js" = none :=
    Search.innerName?_eq_none (c := 'n') (by decide) (by decide)
  have hcandidates : candidatesOf { packageRoots := [] } "./lib//a.js"
      = [.file "./lib//a.js", .resource "./lib//a.js" "./lib//a.js" "./lib//a.js"] := by
    unfold candidatesOf
    rw [Search.pathCandidates_of_plain hinner]
    decide
  have hfind (provider : Provider) (found : Option Body)
      (hopen : openName unpackedLib "./lib//a.js" provider = .ok found) :
      (Search.find (asking { packageRoots := [] } provider) {} "./lib//a.js" none).1
        = Search.passing (found.elim (.ok none) (Search.readAs "./lib//a.js")) := by
    have hsettings : (asking { packageRoots := [] } provider).settings = { packageRoots := [] } := rfl
    have hverdict : verdict ((asking { packageRoots := [] } provider).resources.replies unpackedLib
        "./lib//a.js") = .ok found := by
      show verdict [openName unpackedLib "./lib//a.js" provider] = _
      rw [hopen]
      cases found <;> rfl
    have hanswer : Candidate.answer (asking { packageRoots := [] } provider)
        (.resource "./lib//a.js" "./lib//a.js" "./lib//a.js")
          = found.elim (.ok none) (Search.readAs "./lib//a.js") := by
      unfold Candidate.answer
      simp only [show (asking { packageRoots := [] } provider).files = unpackedLib from rfl, hverdict]
      cases found <;> rfl
    unfold Search.find
    rw [Search.findIn_of_unbased rfl (by decide)]
    refine congrArg Search.passing ?_
    rw [Search.search_eq_verdict, hsettings, hcandidates, List.map_cons, List.map_cons, List.map_nil,
      hanswer, Candidate.answer_file]
    generalize found.elim (.ok none) (Search.readAs "./lib//a.js") = answer
    rcases answer with e | _ | artifact <;> rfl
  refine ⟨unpacked_lib, openName_unpackedLib, hmemory, ?_, ?_⟩
  · rw [hfind _ _ openName_unpackedLib]
    rfl
  · rw [hfind _ _ hmemory]
    rfl

end ModuleLoader.Provider
