import Mathlib.Data.List.Nodup
import Mathlib.Data.List.TakeWhile
import Tint.Files.Loading
import Tint.Proofs.Files.Walk
import Tint.Proofs.Sessions

/-!
# Loading a directory loses and invents nothing

**Theorem (`Registry.loadFrom_accounts`).** From a directory every grammar file is loaded once, in
the order of the walk, and nothing else is. Each is told either as loaded or as failed, and the
registry has grown by one grammar for each that is loaded, under the name that is told and in the
same order. What is not a directory is refused, and the registry kept. This is so whatever reads the
documents: a reader decides only which files are loaded.

**Names (`FileFormat.isSome_ofPath?`).** Which files are loaded depends on what stands behind the
last point of their names, in any case.

**Step (`loadInto_spec`).** A report and a registry are changed by one file in one of two ways: both
get a name at the end, or the report gets a fault and the registry stays as it was (`Grown`). What
becomes of a file depends on the grammars that are registered when its turn comes (`LoadsAs`), so a
run over files (`LoadsAll`) hands the entries on.
-/

namespace Tint

/-! ## Names of grammar files -/

/-- The name of a grammar file: a stem, a point, and one of the extensions in any case. -/
def IsGrammarName (name : String) : Prop :=
  ∃ stem extension : String, stem ≠ "" ∧ name = stem ++ "." ++ extension ∧
    String.ofList (extension.toList.map Char.toLower) ∈ ["json", "yaml", "yml"]

namespace Path

theorem splitName_of_append {stem extension : String} (hstem : stem ≠ "")
    (hpoint : '.' ∉ extension.toList) :
    splitName (stem ++ "." ++ extension) = (stem, some extension) := by
  have hplain : ∀ c ∈ extension.toList.reverse, (c != '.') = true := by
    intro c hc
    simpa using fun h : c = '.' => hpoint (h ▸ List.mem_reverse.1 hc)
  have hreverse : (stem ++ "." ++ extension).toList.reverse =
      extension.toList.reverse ++ '.' :: stem.toList.reverse := by simp
  obtain ⟨c, cs, hcs⟩ := List.exists_cons_of_ne_nil
    (mt (List.reverse_eq_nil_iff.trans String.toList_eq_nil_iff).1 hstem)
  have hback : (c :: cs).reverse = stem.toList := by rw [← hcs, List.reverse_reverse]
  simp only [splitName, hreverse, List.span_eq_takeWhile_dropWhile,
    List.takeWhile_append_of_pos hplain, List.dropWhile_append_of_pos hplain]
  rw [List.takeWhile_cons_of_neg (by simp), List.dropWhile_cons_of_neg (by simp), hcs]
  simp [hback]

theorem splitName_eq_some {name extension : String} (h : (splitName name).2 = some extension) :
    ∃ stem, stem ≠ "" ∧ '.' ∉ extension.toList ∧ name = stem ++ "." ++ extension := by
  have hcut := congrArg List.reverse
    (List.takeWhile_append_dropWhile (p := (· != '.')) (l := name.toList.reverse))
  have hplain : ∀ c ∈ name.toList.reverse.takeWhile (· != '.'), (c != '.') = true :=
    fun c hc => List.mem_takeWhile_imp (p := (· != '.')) hc
  have hhead := List.head?_dropWhile_not (· != '.') name.toList.reverse
  simp only [splitName, List.span_eq_takeWhile_dropWhile] at h
  generalize name.toList.reverse.takeWhile (· != '.') = after at h hcut hplain
  generalize name.toList.reverse.dropWhile (· != '.') = rest at h hcut hhead
  match rest, h with
  | c :: b :: before, h =>
    obtain rfl : c = '.' := by simpa using hhead
    cases h
    refine ⟨String.ofList (b :: before).reverse, by simp, ?_, String.toList_inj.1 ?_⟩
    · simpa using fun h => hplain '.' h
    · simpa using hcut.symm

theorem splitName_eq_some_iff {name extension : String} :
    (splitName name).2 = some extension ↔
      ∃ stem, stem ≠ "" ∧ '.' ∉ extension.toList ∧ name = stem ++ "." ++ extension := by
  refine ⟨splitName_eq_some, ?_⟩
  rintro ⟨stem, hstem, hpoint, rfl⟩
  rw [splitName_of_append hstem hpoint]

end Path

theorem FileFormat.isSome_ofPath? {path name : String} (hname : Path.name? path = some name) :
    (ofPath? path).isSome = true ↔ IsGrammarName name := by
  have hlookup : ∀ key : String, (extensions.lookup key).isSome = true ↔
      key ∈ ["json", "yaml", "yml"] := by
    intro key
    simp only [extensions, OrderedMap.lookup_cons, List.lookup_nil]
    split_ifs <;> simp_all
  have hextension : Path.extension? path = (Path.splitName name).2 := by
    rw [Path.extension?, hname, Option.bind_some]
  have hlower : ∀ extension : String, Path.extension? path = some extension →
      extensionOf path = String.ofList (extension.toList.map Char.toLower) := by
    intro extension h
    rw [extensionOf, h, Option.getD_some]
  constructor
  · intro h
    obtain ⟨format, h⟩ := Option.isSome_iff_exists.1 h
    obtain ⟨extension, hext, hformat⟩ := Option.bind_eq_some_iff.1 h
    obtain ⟨stem, hstem, -, hcut⟩ := Path.splitName_eq_some_iff.1 (hextension ▸ hext)
    refine ⟨stem, extension, hstem, hcut, ?_⟩
    rw [← hlower extension hext, ← hlookup, hformat, Option.isSome_some]
  · rintro ⟨stem, extension, hstem, hcut, hmem⟩
    have hpoint : '.' ∉ extension.toList := by
      intro h
      have hlower : '.' ∈ (String.ofList (extension.toList.map Char.toLower)).toList := by
        rw [String.toList_ofList]
        exact List.mem_map.2 ⟨'.', h, rfl⟩
      generalize String.ofList (extension.toList.map Char.toLower) = key at hmem hlower
      simp only [List.mem_cons, List.not_mem_nil, or_false] at hmem
      rcases hmem with rfl | rfl | rfl <;> simp at hlower
    have hext : Path.extension? path = some extension :=
      hextension.trans (Path.splitName_eq_some_iff.2 ⟨stem, hstem, hpoint, hcut⟩)
    rw [ofPath?, hext, Option.bind_some, hlookup, hlower extension hext]
    exact hmem

/-! ## What becomes of files -/

/-- What became of a file: the entry that it brought to the registry, or what kept it from it. -/
abbrev Outcome := String × Except ConfigError (String × Grammar)

/-- The entries that files brought, in order. -/
def loadedEntries (outcomes : List Outcome) : List (String × Grammar) :=
  outcomes.filterMap fun o => o.2.toOption

/-- The files that failed, in order, with their faults. -/
def failedFiles (outcomes : List Outcome) : List (String × ConfigError) :=
  outcomes.filterMap fun
    | (path, .error fault) => some (path, fault)
    | (_, .ok _) => none

/-- What becomes of a file where these grammars are registered. -/
inductive LoadsAs (reader : DocumentReader) (tree : FileTree) (root : String)
    (entries : List (String × Grammar)) (path : String) :
    Except ConfigError (String × Grammar) → Prop
  | unread {fault : ConfigError} :
      reader.loadFile tree root path = .error fault →
      LoadsAs reader tree root entries path (.error fault)
  /-- A name that is taken is refused, whatever the definition is. -/
  | taken {d : GrammarDefinition} :
      reader.loadFile tree root path = .ok d → Unicode.trim d.name ∈ entries.map Prod.fst →
      LoadsAs reader tree root entries path (.error (.duplicateGrammar (Unicode.trim d.name)))
  | faulty {d : GrammarDefinition} {fault : ConfigError} :
      reader.loadFile tree root path = .ok d → Unicode.trim d.name ∉ entries.map Prod.fst →
      Grammar.compile d.name d = .error fault → LoadsAs reader tree root entries path (.error fault)
  | added {d : GrammarDefinition} {g : Grammar} :
      reader.loadFile tree root path = .ok d → Unicode.trim d.name ∉ entries.map Prod.fst →
      Grammar.compile d.name d = .ok g →
      LoadsAs reader tree root entries path (.ok (Unicode.trim d.name, g))

/-- What becomes of files one after the other; each finds the entries that the files before it have
brought. -/
inductive LoadsAll (reader : DocumentReader) (tree : FileTree) (root : String) :
    List (String × Grammar) → List Outcome → Prop
  | nil (entries : List (String × Grammar)) : LoadsAll reader tree root entries []
  | cons {entries : List (String × Grammar)} {o : Outcome} {outcomes : List Outcome} :
      LoadsAs reader tree root entries o.1 o.2 →
      LoadsAll reader tree root (entries ++ loadedEntries [o]) outcomes →
      LoadsAll reader tree root entries (o :: outcomes)

/-- A report and a registry have grown by what became of files, and are otherwise the same. -/
structure Grown (outcomes : List Outcome) (before after : LoadReport × Registry) : Prop where
  loaded : after.1.loaded = before.1.loaded ++ (loadedEntries outcomes).map Prod.fst
  errors : after.1.errors = before.1.errors ++ failedFiles outcomes
  entries : after.2.grammars.entries = before.2.grammars.entries ++ loadedEntries outcomes

section

variable {reader : DocumentReader} {tree : FileTree} {root path : String}
  {s s' s'' : LoadReport × Registry} {outcomes outcomes' : List Outcome}

theorem loadedEntries_append :
    loadedEntries (outcomes ++ outcomes') = loadedEntries outcomes ++ loadedEntries outcomes' :=
  List.filterMap_append ..

theorem failedFiles_append :
    failedFiles (outcomes ++ outcomes') = failedFiles outcomes ++ failedFiles outcomes' :=
  List.filterMap_append ..

theorem length_loadedEntries_add_length_failedFiles (outcomes : List Outcome) :
    (loadedEntries outcomes).length + (failedFiles outcomes).length = outcomes.length := by
  induction outcomes with
  | nil => rfl
  | cons o outcomes ih =>
    rw [List.length_cons, ← ih]
    obtain ⟨path, _ | _⟩ := o
    · exact (Nat.add_assoc ..).symm
    · exact Nat.add_right_comm ..

namespace Grown

theorem refl (s : LoadReport × Registry) : Grown [] s s :=
  ⟨(List.append_nil _).symm, (List.append_nil _).symm, (List.append_nil _).symm⟩

theorem trans (h : Grown outcomes s s') (h' : Grown outcomes' s' s'') :
    Grown (outcomes ++ outcomes') s s'' where
  loaded := by
    rw [h'.loaded, h.loaded, List.append_assoc, loadedEntries_append, List.map_append]
  errors := by rw [h'.errors, h.errors, List.append_assoc, failedFiles_append]
  entries := by rw [h'.entries, h.entries, List.append_assoc, loadedEntries_append]

theorem failed {s : LoadReport × Registry} (path : String) (fault : ConfigError) :
    Grown [(path, .error fault)] s ({ s.1 with errors := s.1.errors ++ [(path, fault)] }, s.2) :=
  ⟨(List.append_nil _).symm, rfl, (List.append_nil _).symm⟩

end Grown

theorem loadInto_of_unread {fault : ConfigError}
    (h : reader.loadFile tree root path = .error fault) :
    reader.loadInto tree root s path =
      ({ s.1 with errors := s.1.errors ++ [(path, fault)] }, s.2) := by
  rw [DocumentReader.loadInto, h]
  rfl

theorem loadInto_of_refused {d : GrammarDefinition} {fault : ConfigError}
    (h : reader.loadFile tree root path = .ok d) (hr : s.2.register d = .error fault) :
    reader.loadInto tree root s path =
      ({ s.1 with errors := s.1.errors ++ [(path, fault)] }, s.2) := by
  simp only [DocumentReader.loadInto, h, bind, Except.bind, hr]

theorem loadInto_of_registered {d : GrammarDefinition} {r : Registry}
    (h : reader.loadFile tree root path = .ok d) (hr : s.2.register d = .ok r) :
    reader.loadInto tree root s path =
      ({ s.1 with loaded := s.1.loaded ++ [Unicode.trim d.name] }, r) := by
  simp only [DocumentReader.loadInto, h, bind, Except.bind, hr, pure, Except.pure]

/-- One file is told as what it became, and the registry has grown by it. -/
theorem loadInto_spec (reader : DocumentReader) (tree : FileTree) (root : String)
    (s : LoadReport × Registry) (path : String) :
    ∃ outcome, LoadsAs reader tree root s.2.grammars.entries path outcome ∧
      Grown [(path, outcome)] s (reader.loadInto tree root s path) := by
  cases hload : reader.loadFile tree root path with
  | error fault =>
    rw [loadInto_of_unread hload]
    exact ⟨_, .unread hload, .failed path fault⟩
  | ok d =>
    rcases Registry.registerAs_cases s.2 d.name d with
      ⟨htaken, hr⟩ | ⟨hfree, ⟨fault, hcompile, hr⟩ | ⟨g, r, hcompile, hr, hentries⟩⟩
    · rw [loadInto_of_refused hload hr]
      exact ⟨_, .taken hload htaken, .failed path _⟩
    · rw [loadInto_of_refused hload hr]
      exact ⟨_, .faulty hload hfree hcompile, .failed path fault⟩
    · rw [loadInto_of_registered hload hr]
      exact ⟨_, .added hload hfree hcompile, rfl, (List.append_nil _).symm, hentries⟩

/-- Files one after the other are told as what they became, and the registry has grown by them. -/
theorem foldl_loadInto_spec (reader : DocumentReader) (tree : FileTree) (root : String)
    (paths : List String) (s : LoadReport × Registry) :
    ∃ outcomes : List Outcome, outcomes.map Prod.fst = paths ∧
      LoadsAll reader tree root s.2.grammars.entries outcomes ∧
      Grown outcomes s (paths.foldl (reader.loadInto tree root) s) := by
  induction paths generalizing s with
  | nil => exact ⟨[], rfl, .nil _, .refl s⟩
  | cons path paths ih =>
    obtain ⟨outcome, hloads, hgrown⟩ := loadInto_spec reader tree root s path
    obtain ⟨outcomes, hpaths, hall, hrest⟩ := ih (reader.loadInto tree root s path)
    rw [hgrown.entries] at hall
    exact ⟨(path, outcome) :: outcomes, by rw [List.map_cons, hpaths], .cons hloads hall,
      hgrown.trans hrest⟩

end

/-! ## Directories -/

/-- The places of the grammar files below a directory, each once, in the order in which a walk in
depth comes to them. -/
structure GrammarPlaces (t : FileTree) (places : List (List String)) : Prop where
  ascending : places.Pairwise (· < ·)
  mem_iff : ∀ names, names ∈ places ↔ (∃ content, t.at? names = some (.file content)) ∧
    ∃ name, names.getLast? = some name ∧ IsGrammarName name

/-- The grammar files of a directory, as they are loaded. -/
theorem grammarFiles_spec {es : List (String × FileTree)} (h : (FileTree.directory es).Named)
    (directory : String) :
    ∃ places, GrammarPlaces (.directory es) places ∧
      (∀ names ∈ places, names ≠ [] ∧ ∀ n ∈ names, Path.IsName n) ∧
      grammarFiles directory (.directory es) = places.map (Path.below directory) := by
  obtain ⟨places, hwalk, hascending, hmem⟩ := FileTree.walk_spec h directory
  have hfile : ∀ names ∈ places, ∃ name, names.getLast? = some name ∧
      (∀ n ∈ names, Path.IsName n) ∧
      ((FileFormat.ofPath? (Path.below directory names)).isSome = true ↔ IsGrammarName name) := by
    intro names hnames
    obtain ⟨content, hat⟩ := (hmem names).1 hnames
    have hne : names ≠ [] := by
      rintro rfl
      cases hat
    have hisName := h.isName_of_at? hat
    have hlast := List.getLast?_eq_some_getLast hne
    exact ⟨_, hlast, hisName,
      FileFormat.isSome_ofPath? (Path.name?_below directory hisName hlast)⟩
  refine ⟨places.filter fun names => (FileFormat.ofPath? (Path.below directory names)).isSome,
    ⟨hascending.filter _, fun names => ?_⟩, fun names hnames => ?_, ?_⟩
  · rw [List.mem_filter]
    constructor
    · rintro ⟨hnames, hformat⟩
      obtain ⟨name, hlast, -, hiff⟩ := hfile names hnames
      exact ⟨(hmem names).1 hnames, name, hlast, hiff.1 hformat⟩
    · rintro ⟨hat, name, hlast, hname⟩
      have hnames := (hmem names).2 hat
      obtain ⟨name', hlast', -, hiff⟩ := hfile names hnames
      cases hlast.symm.trans hlast'
      exact ⟨hnames, hiff.2 hname⟩
  · obtain ⟨name, hlast, hisName, -⟩ := hfile names (List.mem_filter.1 hnames).1
    refine ⟨?_, hisName⟩
    rintro rfl
    cases hlast
  · rw [grammarFiles, hwalk, List.filter_map]
    rfl

/-- The grammar files below a directory have different paths. -/
theorem nodup_grammarFiles {es : List (String × FileTree)} (h : (FileTree.directory es).Named)
    (directory : String) : (grammarFiles directory (.directory es)).Nodup := by
  obtain ⟨places, hplaces, hnames, hfiles⟩ := grammarFiles_spec h directory
  rw [hfiles]
  refine List.Nodup.map_on (fun a ha b hb => ?_) ?_
  · exact Path.below_injOn (hnames a ha).2 (hnames b hb).2
  · exact hplaces.ascending.imp fun {a b} hlt (heq : a = b) => List.lt_irrefl b (heq ▸ hlt)

section

variable {reader : DocumentReader} {tree : FileTree} {root directory : String}
  {es : List (String × FileTree)} {registry : Registry}

theorem loadDirectory_of_find? (hd : tree.find? directory = some (.directory es)) :
    reader.loadDirectory tree root directory registry =
      .ok ((grammarFiles directory (.directory es)).foldl (reader.loadInto tree root)
        ({}, registry)) := by
  rw [DocumentReader.loadDirectory, hd]

theorem loadDirectory_of_find?_ne (hd : ∀ es, tree.find? directory ≠ some (.directory es)) :
    reader.loadDirectory tree root directory registry =
      .error (.document (Path.join root directory) .directoryNotFound) := by
  rw [DocumentReader.loadDirectory]
  split
  · next es hes => exact absurd hes (hd es)
  · rfl

/-- What loading a directory comes to is known from what becomes of the grammar files below it. -/
theorem exists_loadsAll (hd : tree.find? directory = some (.directory es))
    (reader : DocumentReader) (root : String) (registry : Registry) :
    ∃ report after outcomes,
      reader.loadDirectory tree root directory registry = .ok (report, after) ∧
      outcomes.map Prod.fst = grammarFiles directory (.directory es) ∧
      LoadsAll reader tree root registry.grammars.entries outcomes ∧
      report.loaded = (loadedEntries outcomes).map Prod.fst ∧
      report.errors = failedFiles outcomes ∧
      after.grammars.entries = registry.grammars.entries ++ loadedEntries outcomes := by
  obtain ⟨outcomes, hpaths, hall, hgrown⟩ := foldl_loadInto_spec reader tree root
    (grammarFiles directory (.directory es)) ({}, registry)
  exact ⟨_, _, outcomes, loadDirectory_of_find? hd, hpaths, hall, hgrown.loaded, hgrown.errors,
    hgrown.entries⟩

end

/-- Load a directory into a registry. A directory that is refused gives no registry, so the one that
was there is kept. -/
def Registry.loadFrom (registry : Registry) (reader : DocumentReader) (tree : FileTree)
    (root directory : String) : Except ConfigError LoadReport × Registry :=
  match reader.loadDirectory tree root directory registry with
  | .ok (report, after) => (.ok report, after)
  | .error fault => (.error fault, registry)

/-- **Loading a directory loses and invents nothing**, whatever reads the documents. Where the path
is that of a directory there is always a report. The grammar files below it are taken in the order
of a walk in depth that comes to the entries of each directory by their names. What becomes of them
goes into the report once, be it as a name or as a fault with the path, and nothing else does; and
the entries of the registry are those it had, followed by the ones that the files have brought.
Where it is not, this is what is told, and the registry is kept. -/
theorem Registry.loadFrom_accounts {tree : FileTree} (h : tree.Named) (reader : DocumentReader)
    (root directory : String) (registry : Registry) :
    (∀ es, tree.find? directory = some (.directory es) →
      ∃ report places outcomes after,
        registry.loadFrom reader tree root directory = (.ok report, after) ∧
        GrammarPlaces (.directory es) places ∧
        (∀ names ∈ places,
          tree.find? (Path.below directory names) = (FileTree.directory es).at? names) ∧
        outcomes.map Prod.fst = places.map (Path.below directory) ∧
        (outcomes.map Prod.fst).Nodup ∧
        LoadsAll reader tree root registry.grammars.entries outcomes ∧
        report.loaded = (loadedEntries outcomes).map Prod.fst ∧
        report.errors = failedFiles outcomes ∧
        report.loaded.length + report.errors.length = places.length ∧
        after.grammars.entries = registry.grammars.entries ++ loadedEntries outcomes) ∧
    ((∀ es, tree.find? directory ≠ some (.directory es)) →
      registry.loadFrom reader tree root directory =
        (.error (.document (Path.join root directory) .directoryNotFound), registry)) := by
  constructor
  · intro es hd
    have hnamed := FileTree.named_of_find? h hd
    obtain ⟨places, hplaces, hnames, hfiles⟩ := grammarFiles_spec hnamed directory
    obtain ⟨report, after, outcomes, hload, hpaths, hall, hloaded, herrors, hentries⟩ :=
      exists_loadsAll hd reader root registry
    refine ⟨report, places, outcomes, after, by rw [loadFrom, hload], hplaces,
      fun names hmem => ?_, hpaths.trans hfiles, ?_, hall, hloaded, herrors, ?_, hentries⟩
    · exact FileTree.find?_below hd (hnames names hmem).2 (hnames names hmem).1
    · rw [hpaths]
      exact nodup_grammarFiles hnamed directory
    · rw [hloaded, herrors, List.length_map, length_loadedEntries_add_length_failedFiles,
        ← List.length_map Prod.fst, hpaths, hfiles, List.length_map]
  · intro hd
    rw [loadFrom, loadDirectory_of_find?_ne hd]

/-- Files of which two hold grammars of one name, one is no document, and one is none to be
loaded. -/
def shelf : List (String × FileTree) :=
  [("notes.txt", .file "notes".toUTF8),
    ("c.yml", .file "[".toUTF8),
    ("b.json", .directory [("a.JSON", .file "\x7b\"defaultMode\":\x7b\x7d\x7d".toUTF8)]),
    ("b.b.json", .file "\x7b\"name\":\" a\",\"defaultMode\":\x7b\x7d\x7d".toUTF8)]

/-- The file that comes first has the name; the one that would take it from its path comes too
late. -/
theorem Registry.loadFrom_accounts_shelf :
    ∃ report places outcomes after,
      empty.loadFrom FileFormat.parse (.directory [("shelf", .directory shelf)]) "root" "./shelf/" =
        (.ok report, after) ∧
      GrammarPlaces (.directory shelf) places ∧
      outcomes.map Prod.fst = places.map (Path.below "./shelf/") ∧
      LoadsAll FileFormat.parse (.directory [("shelf", .directory shelf)]) "root" [] outcomes ∧
      report.loaded = ["a"] ∧
      report.errors = [("./shelf/b.json/a.JSON", .duplicateGrammar "a"),
        ("./shelf/c.yml", .document "root/./shelf/c.yml" .malformed)] ∧
      after.grammars.entries = loadedEntries outcomes := by
  have hnamed : (FileTree.directory [("shelf", .directory shelf)]).Named := by
    have hshelf : (FileTree.directory shelf).Named := by
      refine .directory (by decide) (by decide +kernel) ?_
      simp only [shelf, List.forall_mem_cons]
      refine ⟨.file _, .file _, .directory (by decide) (by decide +kernel) ?_, .file _, nofun⟩
      exact List.forall_mem_singleton.2 (.file _)
    exact .directory (by decide) (by decide +kernel) (List.forall_mem_singleton.2 hshelf)
  have hfind : (FileTree.directory [("shelf", .directory shelf)]).find? "./shelf/" =
      some (.directory shelf) := by
    rw [FileTree.find?, if_neg (by decide +kernel),
      show Path.steps "./shelf/" = ["shelf"] by decide +kernel]
    simp [FileTree.follow, FileTree.isDirectory]
  have hwalk : (FileTree.directory shelf).walk "./shelf/" =
      ["./shelf/b.b.json", "./shelf/b.json/a.JSON", "./shelf/c.yml", "./shelf/notes.txt"] := by
    have hsorted : FileTree.byName shelf = shelf.reverse := by
      simp [FileTree.byName, shelf, List.mergeSort, List.MergeSort.Internal.splitInTwo]
    rw [FileTree.walk_directory, hsorted]
    simp only [shelf, List.reverse_cons, List.reverse_nil, List.nil_append, List.cons_append,
      List.flatMap_cons, List.flatMap_nil, FileTree.walk]
    decide +kernel
  have hrun : ((empty.loadFrom FileFormat.parse (.directory [("shelf", .directory shelf)]) "root"
      "./shelf/").1.map fun r => (r.loaded, r.errors)).toOption =
        some (["a"], [("./shelf/b.json/a.JSON", .duplicateGrammar "a"),
          ("./shelf/c.yml", .document "root/./shelf/c.yml" .malformed)]) := by
    simp only [loadFrom, DocumentReader.loadDirectory, hfind, grammarFiles, hwalk]
    decide +kernel
  obtain ⟨report, places, outcomes, after, hload, hplaces, -, hpaths, -, hall, -, -, -, hentries⟩ :=
    (loadFrom_accounts hnamed FileFormat.parse "root" "./shelf/" empty).1 _ hfind
  rw [hload] at hrun
  obtain ⟨hloaded, herrors⟩ := Prod.mk.inj (Option.some.inj hrun)
  exact ⟨report, places, outcomes, after, hload, hplaces, hpaths, hall, hloaded, herrors, hentries⟩

end Tint
