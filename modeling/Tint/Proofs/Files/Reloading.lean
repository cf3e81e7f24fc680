import Tint.Proofs.Files.Deletion

/-!
# Loading a directory again

A run over files is determined by what reads them, by what they hold and by the grammars that are
registered when it starts (`LoadsAll.unique`). So to know what comes of another run it is enough to
say what becomes of each of its files, and two runs are compared file by file. What the reader
accepts does not matter, as long as both runs have the same one.

**The same directory (`loadDirectory_again`).** The registry has only grown when the directory is
loaded again. A name that was taken before is taken now, and a definition that was at fault is at
fault now, unless its name has been taken meanwhile; and a grammar that was loaded has taken its own
name. So no file is loaded, and no entry comes in.

**Fewer files (`loadDirectory_without`).** A file that fails leaves no trace in the registry, so the
files behind it find what they would find if it were not there.
-/

namespace Tint

variable {reader : DocumentReader} {tree tree' : FileTree} {root directory path : String}
  {es : List (String × FileTree)} {entries : List (String × Grammar)}
  {outcomes outcomes' : List Outcome} {outcome outcome' : Except ConfigError (String × Grammar)}
  {registry after : Registry}

/-! ## Runs are determined -/

theorem loadedEntries_cons (o : Outcome) (outcomes : List Outcome) :
    loadedEntries (o :: outcomes) = loadedEntries [o] ++ loadedEntries outcomes :=
  List.filterMap_append (l := [o])

theorem LoadsAs.unique (h : LoadsAs reader tree root entries path outcome)
    (h' : LoadsAs reader tree root entries path outcome') : outcome = outcome' := by
  cases h <;> cases h' <;> simp_all

theorem LoadsAll.unique (h : LoadsAll reader tree root entries outcomes)
    (h' : LoadsAll reader tree root entries outcomes')
    (hpaths : outcomes.map Prod.fst = outcomes'.map Prod.fst) : outcomes = outcomes' := by
  induction h generalizing outcomes' with
  | nil =>
    cases h' with
    | nil => rfl
    | cons => cases hpaths
  | @cons _ o _ hfirst _ ih =>
    cases h' with
    | nil => cases hpaths
    | @cons _ o' _ hfirst' hrest' =>
      obtain ⟨path, outcome⟩ := o
      obtain ⟨path', outcome'⟩ := o'
      rw [List.map_cons, List.map_cons, List.cons.injEq] at hpaths
      obtain ⟨rfl, hpaths⟩ := hpaths
      cases hfirst.unique hfirst'
      rw [ih hrest' hpaths]

/-- Where it is known what becomes of the grammar files below a directory, it is known what loading
the directory comes to. -/
theorem loadDirectory_of_loadsAll (hd : tree.find? directory = some (.directory es))
    (hpaths : outcomes.map Prod.fst = grammarFiles directory (.directory es))
    (h : LoadsAll reader tree root registry.grammars.entries outcomes)
    (hafter : after.grammars.entries = registry.grammars.entries ++ loadedEntries outcomes) :
    reader.loadDirectory tree root directory registry =
      .ok ({ loaded := (loadedEntries outcomes).map Prod.fst, errors := failedFiles outcomes },
        after) := by
  obtain ⟨⟨loaded, errors⟩, ⟨grammars⟩, outcomes', hload, hpaths', hall, rfl, rfl, hentries⟩ :=
    exists_loadsAll hd reader root registry
  obtain rfl := hall.unique h (hpaths'.trans hpaths.symm)
  obtain rfl : grammars = after.grammars :=
    OrderedMap.eq_of_entries (hentries.trans hafter.symm)
  exact hload

/-! ## The same directory -/

/-- How a file fails when it is loaded again: it says that the name of its grammar is taken, or, if
that is not so, what it said before. -/
inductive FailsAgain (reader : DocumentReader) (tree : FileTree) (root : String)
    (names : List String) : Outcome → String × ConfigError → Prop
  | loaded (path name : String) (g : Grammar) :
      FailsAgain reader tree root names (path, .ok (name, g)) (path, .duplicateGrammar name)
  | failed (path : String) (fault : ConfigError) :
      FailsAgain reader tree root names (path, .error fault) (path, fault)
  | taken {path : String} {fault : ConfigError} {d : GrammarDefinition} :
      reader.loadFile tree root path = .ok d → Unicode.trim d.name ∈ names →
      FailsAgain reader tree root names (path, .error fault)
        (path, .duplicateGrammar (Unicode.trim d.name))

/-- A file fails when it is loaded where what was registered is registered, and what it brought. -/
theorem LoadsAs.failsAgain {later : List (String × Grammar)}
    (h : LoadsAs reader tree root entries path outcome) (hlater : entries ⊆ later)
    (hbrought : ∀ e, outcome = .ok e → e ∈ later) :
    ∃ fault, LoadsAs reader tree root later path (.error fault) ∧
      FailsAgain reader tree root (later.map Prod.fst) (path, outcome) (path, fault) := by
  cases h with
  | unread hfile => exact ⟨_, .unread hfile, .failed path _⟩
  | taken hfile htaken =>
    exact ⟨_, .taken hfile (List.map_subset Prod.fst hlater htaken), .failed path _⟩
  | @faulty d fault hfile _ hcompile =>
    by_cases htaken : Unicode.trim d.name ∈ later.map Prod.fst
    · exact ⟨_, .taken hfile htaken, .taken hfile htaken⟩
    · exact ⟨_, .faulty hfile htaken hcompile, .failed path fault⟩
  | added hfile _ _ =>
    exact ⟨_, .taken hfile (List.mem_map_of_mem (hbrought _ rfl)), .loaded path _ _⟩

/-- Files fail one after the other, so the registry stays as it is while they do. -/
theorem LoadsAll.failsAgain {later : List (String × Grammar)}
    (h : LoadsAll reader tree root entries outcomes)
    (hlater : entries ++ loadedEntries outcomes ⊆ later) :
    ∃ faults : List (String × ConfigError),
      faults.map Prod.fst = outcomes.map Prod.fst ∧
        LoadsAll reader tree root later (faults.map fun f => (f.1, .error f.2)) ∧
        List.Forall₂ (FailsAgain reader tree root (later.map Prod.fst)) outcomes faults := by
  induction h with
  | nil => exact ⟨[], rfl, .nil later, .nil⟩
  | @cons entries o outcomes hfirst _ ih =>
    rw [loadedEntries_cons, ← List.append_assoc] at hlater
    obtain ⟨path, outcome⟩ := o
    obtain ⟨hkept, hbrought⟩ :=
      List.append_subset.1 (List.Subset.trans (List.subset_append_left _ _) hlater)
    have hown : ∀ e, outcome = .ok e → e ∈ later := by
      rintro e rfl
      exact hbrought List.mem_cons_self
    obtain ⟨fault, hfails, hagain⟩ := hfirst.failsAgain hkept hown
    obtain ⟨faults, hpaths, hall, hrest⟩ := ih hlater
    refine ⟨(path, fault) :: faults, congrArg (path :: ·) hpaths, .cons hfails ?_,
      .cons hagain hrest⟩
    rwa [show loadedEntries [(path, .error fault)] = [] from rfl, List.append_nil]

theorem accounts_of_failed (faults : List (String × ConfigError)) :
    (faults.map fun f => (f.1, .error f.2) : List Outcome).map Prod.fst = faults.map Prod.fst ∧
      loadedEntries (faults.map fun f => (f.1, .error f.2)) = [] ∧
      failedFiles (faults.map fun f => (f.1, .error f.2)) = faults := by
  refine ⟨?_, ?_, ?_⟩
  · rw [List.map_map]
    rfl
  · rw [loadedEntries, List.filterMap_map]
    exact List.filterMap_eq_nil_iff.2 fun f _ => rfl
  · rw [failedFiles, List.filterMap_map]
    exact List.filterMap_some

/-- **Loading a directory again loads nothing.** Take any reader of documents, any tree with names,
any directory of the tree, and any registry. When the directory has been loaded into the registry
and is loaded again, the registry stays as it is and no name is told as loaded. Every grammar file
below the directory fails once, in the same order: where it was loaded, because its name is taken,
and where it failed, with the fault that it had or because its name has been taken meanwhile. -/
theorem loadDirectory_again (h : tree.Named) (hd : tree.find? directory = some (.directory es))
    (reader : DocumentReader) (root : String) (registry : Registry) :
    ∃ report after places outcomes again,
      reader.loadDirectory tree root directory registry = .ok (report, after) ∧
      GrammarPlaces (.directory es) places ∧
      LoadsAll reader tree root registry.grammars.entries outcomes ∧
      report.loaded = (loadedEntries outcomes).map Prod.fst ∧
      report.errors = failedFiles outcomes ∧
      reader.loadDirectory tree root directory after = .ok (again, after) ∧
      again.loaded = [] ∧
      again.errors.map Prod.fst = places.map (Path.below directory) ∧
      (again.errors.map Prod.fst).Nodup ∧
      List.Forall₂ (FailsAgain reader tree root after.names) outcomes again.errors := by
  obtain ⟨report, after, outcomes, hload, hpaths, hall, hloaded, herrors, hafter⟩ :=
    exists_loadsAll hd reader root registry
  have hnamed := FileTree.named_of_find? h hd
  obtain ⟨places, hplaces, -, hfiles⟩ := grammarFiles_spec hnamed directory
  have hlater : registry.grammars.entries ++ loadedEntries outcomes ⊆ after.grammars.entries := by
    rw [hafter]
    exact List.Subset.refl _
  obtain ⟨faults, hsame, hagain, hfails⟩ := hall.failsAgain hlater
  obtain ⟨hfst, hnone, hfaults⟩ := accounts_of_failed faults
  have hkept : after.grammars.entries =
      after.grammars.entries ++ loadedEntries (faults.map fun f => (f.1, .error f.2)) := by
    rw [hnone, List.append_nil]
  have hrun := loadDirectory_of_loadsAll hd ((hfst.trans hsame).trans hpaths) hagain hkept
  rw [hnone, hfaults, List.map_nil] at hrun
  refine ⟨report, after, places, outcomes, _, hload, hplaces, hall, hloaded, herrors, hrun, rfl, ?_,
    ?_, hfails⟩
  · exact (hsame.trans hpaths).trans hfiles
  · rw [hsame, hpaths]
    exact nodup_grammarFiles hnamed directory

/-- Three grammar files, of which the first has a fault and the name that the second one is loaded
under, and the third is no document. -/
def drawer : List (String × FileTree) :=
  [("c.yml", .file "[".toUTF8),
    ("b", .directory
      [("b.json", .file "\x7b\"name\":\" x\",\"defaultMode\":\x7b\x7d\x7d".toUTF8)]),
    ("a.json", .file
      "\x7b\"name\":\"x\",\"defaultMode\":\x7b\"contains\":[\"y\"]\x7d\x7d".toUTF8)]

/-- A tree with these files. -/
def cabinet : FileTree := .directory [("drawer", .directory drawer)]

theorem named_cabinet : cabinet.Named := by
  refine .directory (by decide) (by decide +kernel) (List.forall_mem_singleton.2 ?_)
  refine .directory (by decide) (by decide +kernel) ?_
  simp only [drawer, List.forall_mem_cons]
  refine ⟨.file _, .directory (by decide) (by decide +kernel) ?_, .file _, nofun⟩
  exact List.forall_mem_singleton.2 (.file _)

theorem find?_cabinet : cabinet.find? "drawer/../drawer" = some (.directory drawer) := by
  rw [FileTree.find?, if_neg (by decide +kernel),
    show Path.steps "drawer/../drawer" = ["drawer", "..", "drawer"] by decide +kernel]
  simp [cabinet, FileTree.follow, FileTree.isDirectory]

theorem grammarFiles_drawer : grammarFiles "drawer/../drawer" (.directory drawer) =
    ["drawer/../drawer/a.json", "drawer/../drawer/b/b.json", "drawer/../drawer/c.yml"] := by
  have hsorted : FileTree.byName drawer = drawer.reverse := by
    simp [FileTree.byName, drawer, List.mergeSort, List.MergeSort.Internal.splitInTwo]
  rw [grammarFiles, FileTree.walk_directory, hsorted]
  simp only [drawer, List.reverse_cons, List.reverse_nil, List.nil_append, List.cons_append,
    List.flatMap_cons, List.flatMap_nil, FileTree.walk]
  decide +kernel

/-- What comes of loading the files of the drawer, and of loading them again. There is a step back
on the way to their directory. -/
theorem load_drawer :
    ∃ report after again,
      loadDirectory cabinet "root" "drawer/../drawer" .empty = .ok (report, after) ∧
      loadDirectory cabinet "root" "drawer/../drawer" after = .ok again ∧
      report.loaded = ["x"] ∧
      report.errors = [("drawer/../drawer/a.json", .unresolvedReference "x" "" "y"),
        ("drawer/../drawer/c.yml", .document "root/drawer/../drawer/c.yml" .malformed)] ∧
      again.1.errors = [("drawer/../drawer/a.json", .duplicateGrammar "x"),
        ("drawer/../drawer/b/b.json", .duplicateGrammar "x"),
        ("drawer/../drawer/c.yml", .document "root/drawer/../drawer/c.yml" .malformed)] := by
  have hload : ∀ registry, loadDirectory cabinet "root" "drawer/../drawer" registry =
      .ok (["drawer/../drawer/a.json", "drawer/../drawer/b/b.json", "drawer/../drawer/c.yml"].foldl
        (DocumentReader.loadInto FileFormat.parse cabinet "root") ({}, registry)) := by
    intro registry
    rw [loadDirectory, loadDirectory_of_find? find?_cabinet, grammarFiles_drawer]
  refine ⟨_, _, _, hload _, hload _, ?_⟩
  decide +kernel

/-- The file with the fault fails again, but now because its name is taken. -/
theorem loadDirectory_again_drawer :
    ∃ report after again, cabinet.Named ∧
      loadDirectory cabinet "root" "drawer/../drawer" .empty = .ok (report, after) ∧
      report.loaded = ["x"] ∧
      loadDirectory cabinet "root" "drawer/../drawer" after = .ok (again, after) ∧
      again.loaded = [] ∧
      again.errors = [("drawer/../drawer/a.json", .duplicateGrammar "x"),
        ("drawer/../drawer/b/b.json", .duplicateGrammar "x"),
        ("drawer/../drawer/c.yml", .document "root/drawer/../drawer/c.yml" .malformed)] := by
  obtain ⟨report, after, second, hload, hsecond, hnames, -, hfaults⟩ := load_drawer
  obtain ⟨_, _, places, outcomes, again, hfirst, -, -, -, -, hagain, hloaded, -⟩ :=
    loadDirectory_again named_cabinet find?_cabinet FileFormat.parse "root" .empty
  cases hload.symm.trans hfirst
  cases hsecond.symm.trans hagain
  exact ⟨report, after, again, named_cabinet, hload, hnames, hagain, hloaded, hfaults⟩

/-! ## Fewer files -/

theorem failedFiles_filter (keep : String → Bool) (outcomes : List Outcome) :
    failedFiles (outcomes.filter fun o => keep o.1) =
      (failedFiles outcomes).filter fun f => keep f.1 := by
  rw [failedFiles, failedFiles, List.filterMap_filter, List.filter_filterMap]
  refine List.filterMap_congr fun o _ => ?_
  obtain ⟨path, _ | _⟩ := o <;> cases hkeep : keep path <;> simp [Option.filter, hkeep]

theorem loadFile_congr (h : tree'.readText? path = tree.readText? path) :
    reader.loadFile tree' root path = reader.loadFile tree root path := by
  rw [DocumentReader.loadFile, DocumentReader.loadFile, h]

/-- What becomes of a file depends on the tree only by what the file holds. -/
theorem LoadsAs.congr (h : LoadsAs reader tree root entries path outcome)
    (hfile : reader.loadFile tree' root path = reader.loadFile tree root path) :
    LoadsAs reader tree' root entries path outcome := by
  cases h with
  | unread hread => exact .unread (hfile.trans hread)
  | taken hread htaken => exact .taken (hfile.trans hread) htaken
  | faulty hread hfree hcompile => exact .faulty (hfile.trans hread) hfree hcompile
  | added hread hfree hcompile => exact .added (hfile.trans hread) hfree hcompile

/-- A run over fewer files, where those that are left out failed and the others hold what they held,
comes to the same for those that are left. -/
theorem LoadsAll.filter (h : LoadsAll reader tree root entries outcomes) (keep : String → Bool)
    (hfailed : ∀ o ∈ outcomes, keep o.1 = false → ∃ fault, o.2 = .error fault)
    (hfile : ∀ o ∈ outcomes, keep o.1 = true →
      reader.loadFile tree' root o.1 = reader.loadFile tree root o.1) :
    LoadsAll reader tree' root entries (outcomes.filter fun o => keep o.1) ∧
      loadedEntries (outcomes.filter fun o => keep o.1) = loadedEntries outcomes := by
  induction h with
  | nil entries => exact ⟨.nil entries, rfl⟩
  | @cons entries o outcomes hfirst _ ih =>
    obtain ⟨hfailed, hfailedRest⟩ := List.forall_mem_cons.1 hfailed
    obtain ⟨hfile, hfileRest⟩ := List.forall_mem_cons.1 hfile
    obtain ⟨hrest, hentries⟩ := ih hfailedRest hfileRest
    cases hkeep : keep o.1 with
    | true =>
      rw [List.filter_cons_of_pos (by simpa using hkeep), loadedEntries_cons, hentries,
        ← loadedEntries_cons]
      exact ⟨.cons (hfirst.congr (hfile hkeep)) hrest, rfl⟩
    | false =>
      obtain ⟨fault, hfault⟩ := hfailed hkeep
      -- a file that failed has brought no entry
      have hnone : loadedEntries [o] = [] := by
        obtain ⟨path, outcome⟩ := o
        obtain rfl : outcome = .error fault := hfault
        rfl
      rw [hnone, List.append_nil] at hrest
      rw [List.filter_cons_of_neg (by simp [hkeep]), loadedEntries_cons, hnone]
      exact ⟨hrest, hentries⟩

theorem mem_failedFiles {fault : ConfigError} :
    (path, fault) ∈ failedFiles outcomes ↔ (path, .error fault) ∈ outcomes := by
  rw [failedFiles, List.mem_filterMap]
  constructor
  · rintro ⟨⟨path', _ | _⟩, hmem, heq⟩
    · cases heq
      exact hmem
    · cases heq
  · exact fun hmem => ⟨_, hmem, rfl⟩

/-- **A file that fails does not affect the others.** Take any reader of documents, any tree with
names, any directory of the tree, and any registry. When the directory has been loaded into the
registry, any of the files that failed are deleted, and the directory is loaded into the registry as
it was before, then the same names are told as loaded, the registry becomes the same, and the same
faults are told of the files that are left. -/
theorem loadDirectory_without (h : tree.Named) (hd : tree.find? directory = some (.directory es))
    (reader : DocumentReader) (root : String) (registry : Registry) :
    ∃ report after, reader.loadDirectory tree root directory registry = .ok (report, after) ∧
      ∀ gone ⊆ report.errors.map Prod.fst,
        reader.loadDirectory (tree.without gone) root directory registry =
          .ok ({ report with errors := report.errors.filter fun e => e.1 ∉ gone }, after) := by
  obtain ⟨report, after, outcomes, hload, hpaths, hall, hloaded, herrors, hafter⟩ :=
    exists_loadsAll hd reader root registry
  refine ⟨report, after, hload, fun gone hgone => ?_⟩
  have hfault : ∀ path ∈ gone, ∃ fault, (path, .error fault) ∈ outcomes := by
    intro path hpath
    have hlisted := hgone hpath
    rw [herrors] at hlisted
    obtain ⟨⟨path, fault⟩, hmem, rfl⟩ := List.mem_map.1 hlisted
    exact ⟨fault, mem_failedFiles.1 hmem⟩
  have hlisted : ∀ path ∈ gone, path ∈ grammarFiles directory (.directory es) := by
    intro path hpath
    obtain ⟨fault, hmem⟩ := hfault path hpath
    rw [← hpaths]
    exact List.mem_map_of_mem hmem
  obtain ⟨es', hd', hfiles, hread⟩ := grammarFiles_without h hd hlisted
  -- no path occurs twice, so what became of a path that is deleted is its fault
  have hnodup : (outcomes.map Prod.fst).Nodup := by
    rw [hpaths]
    exact nodup_grammarFiles (FileTree.named_of_find? h hd) directory
  have hfailed : ∀ o ∈ outcomes, decide (o.1 ∉ gone) = false → ∃ fault, o.2 = .error fault := by
    intro o ho hpath
    obtain ⟨fault, hmem⟩ := hfault o.1 (by simpa using hpath)
    have heq := List.inj_on_of_nodup_map hnodup ho hmem rfl
    exact ⟨fault, congrArg Prod.snd heq⟩
  have hfile : ∀ o ∈ outcomes, decide (o.1 ∉ gone) = true →
      reader.loadFile (tree.without gone) root o.1 = reader.loadFile tree root o.1 := by
    intro o ho hpath
    refine loadFile_congr (hread o.1 ?_)
    rw [hfiles, List.mem_filter, ← hpaths]
    exact ⟨List.mem_map_of_mem ho, hpath⟩
  obtain ⟨hrest, hentries⟩ := hall.filter (fun path => path ∉ gone) hfailed hfile
  have hpaths' : (outcomes.filter fun o => o.1 ∉ gone).map Prod.fst =
      grammarFiles directory (.directory es') := by
    rw [hfiles, ← hpaths, List.filter_map]
    rfl
  have hafter' : after.grammars.entries = registry.grammars.entries ++
      loadedEntries (outcomes.filter fun o => o.1 ∉ gone) := by
    rw [hentries, hafter]
  have hrun := loadDirectory_of_loadsAll hd' hpaths' hrest hafter'
  rw [hrun, hentries, failedFiles_filter (fun path => path ∉ gone), hloaded, herrors]

/-- The file whose name is loaded from another one is deleted. -/
theorem loadDirectory_without_drawer :
    ∃ report after, cabinet.Named ∧
      loadDirectory cabinet "root" "drawer/../drawer" .empty = .ok (report, after) ∧
      ["drawer/../drawer/a.json"] ⊆ report.errors.map Prod.fst ∧
      loadDirectory (cabinet.without ["drawer/../drawer/a.json"]) "root" "drawer/../drawer" .empty =
        .ok ({ loaded := ["x"], errors := [("drawer/../drawer/c.yml",
          .document "root/drawer/../drawer/c.yml" .malformed)] }, after) := by
  obtain ⟨report, after, -, hload, -, hnames, hfaults, -⟩ := load_drawer
  obtain ⟨_, _, hfirst, hwithout⟩ :=
    loadDirectory_without named_cabinet find?_cabinet FileFormat.parse "root" .empty
  cases hload.symm.trans hfirst
  have hgone : ["drawer/../drawer/a.json"] ⊆ report.errors.map Prod.fst := by
    rw [hfaults]
    decide
  have hleft : report.errors.filter (fun e => e.1 ∉ ["drawer/../drawer/a.json"]) =
      [("drawer/../drawer/c.yml", .document "root/drawer/../drawer/c.yml" .malformed)] := by
    rw [hfaults]
    decide
  have hwithout := hwithout _ hgone
  rw [hnames, hleft] at hwithout
  exact ⟨report, after, named_cabinet, hload, hgone, hwithout⟩

end Tint
