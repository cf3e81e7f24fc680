import Mathlib.Data.List.Sort
import Tint.Proofs.Files.Loading

/-!
# Trees from which files are deleted

A file is known by the names on the way to it from the top of its tree. A path that names it leads
there too, but may go back by two points on the way, so the names are read off the path first
(`Path.resolve`). Files are deleted where they are; directories stay, also when nothing is left in
them.

**Ways (`find?_prune`).** A path that leads to a directory leads to the same directory when files
are deleted, less those of them that are below it. The directories around are deleted from alike, so
a step back finds what it found before.

**Walks (`grammarFiles_without`).** A walk comes to the files in the order of their names, and two
lists that ascend strictly and have the same members are the same. So a walk through what is left
comes to the files that it came to before, less those that were deleted, in the same order.
-/

namespace Tint

/-! ## Places -/

/-- The names that steps lead through, starting behind some names. -/
def Path.resolve : List String → List String → List String
  | names, [] => names
  | names, p :: ps =>
    if p = ".." then Path.resolve names.dropLast ps else Path.resolve (names ++ [p]) ps

/-- Where there is no way back, the steps are the names. -/
theorem Path.resolve_names {names : List String} (h : ∀ n ∈ names, n ≠ "..")
    (start : List String) : Path.resolve start names = start ++ names := by
  induction names generalizing start with
  | nil => exact (List.append_nil _).symm
  | cons n names ih =>
    obtain ⟨hn, hnames⟩ := List.forall_mem_cons.1 h
    rw [resolve, if_neg hn, ih hnames, List.append_assoc]
    rfl

theorem Path.resolve_append {names : List String} (h : ∀ n ∈ names, n ≠ "..")
    (start steps : List String) :
    Path.resolve start (steps ++ names) = Path.resolve start steps ++ names := by
  induction steps generalizing start with
  | nil => exact resolve_names h start
  | cons p ps ih =>
    rw [List.cons_append, resolve, resolve]
    split
    · exact ih _
    · exact ih _

namespace FileTree

/-! ## Deletion -/

mutual

/-- What is left of a tree when only the files at some places are kept. -/
def prune (keep : List String → Bool) : FileTree → FileTree
  | .file content => .file content
  | .directory es => .directory (pruneEntries keep es)

/-- What is left of the entries of a directory. -/
def pruneEntries (keep : List String → Bool) : List (String × FileTree) → List (String × FileTree)
  | [] => []
  | (n, t) :: es =>
    if t.isDirectory || keep [n] then
      (n, prune (fun names => keep (n :: names)) t) :: pruneEntries keep es
    else pruneEntries keep es

end

/-- The place of the file that a path names. -/
def place? (t : FileTree) (path : String) : Option (List String) :=
  match t.find? path with
  | some (.file _) => some (Path.resolve [] (Path.steps path))
  | _ => none

/-- What is left of a tree when the files that some paths name are deleted. -/
def without (t : FileTree) (paths : List String) : FileTree :=
  t.prune fun names => names ∉ paths.filterMap t.place?

variable {keep : List String → Bool} {t u : FileTree} {es : List (String × FileTree)}
  {around around' : List FileTree} {names ps : List String} {content : ByteArray}

theorem prune_directory : prune keep (.directory es) = .directory (pruneEntries keep es) := by
  rw [prune]

theorem map_fst_pruneEntries_sublist (keep : List String → Bool) (es : List (String × FileTree)) :
    ((pruneEntries keep es).map Prod.fst).Sublist (es.map Prod.fst) := by
  induction es with
  | nil => exact .slnil
  | cons e es ih =>
    obtain ⟨n, t⟩ := e
    rw [pruneEntries]
    split
    · exact ih.cons_cons n
    · exact ih.cons n

theorem lookup_pruneEntries (hnodup : (es.map Prod.fst).Nodup) (n : String) :
    (pruneEntries keep es).lookup n =
      (es.lookup n).bind fun u =>
        if u.isDirectory || keep [n] then some (prune (fun names => keep (n :: names)) u)
        else none := by
  induction es with
  | nil => rfl
  | cons e es ih =>
    obtain ⟨k, t⟩ := e
    rw [List.map_cons, List.nodup_cons] at hnodup
    have hrest := ih hnodup.2
    rw [pruneEntries, OrderedMap.lookup_cons]
    by_cases hkn : n = k
    · subst hkn
      rw [if_pos rfl, Option.bind_some]
      split
      · rw [OrderedMap.lookup_cons, if_pos rfl]
      · -- the name does not come again
        refine List.lookup_eq_none_iff.2 fun e he => ?_
        have hmem := (map_fst_pruneEntries_sublist keep es).mem (List.mem_map_of_mem he)
        simpa using fun heq : n = e.1 => hnodup.1 (heq ▸ hmem)
    · rw [if_neg hkn]
      split
      · rw [OrderedMap.lookup_cons, if_neg hkn, hrest]
      · exact hrest

theorem exists_of_mem_pruneEntries {e : String × FileTree} (h : e ∈ pruneEntries keep es) :
    ∃ u, (e.1, u) ∈ es ∧ e.2 = prune (fun names => keep (e.1 :: names)) u := by
  induction es with
  | nil => cases h
  | cons e' es ih =>
    obtain ⟨n, t⟩ := e'
    have hrest : e ∈ pruneEntries keep es →
        ∃ u, (e.1, u) ∈ (n, t) :: es ∧ e.2 = prune (fun names => keep (e.1 :: names)) u := by
      intro he
      obtain ⟨u, hu, heq⟩ := ih he
      exact ⟨u, List.mem_cons_of_mem _ hu, heq⟩
    rw [pruneEntries] at h
    split at h
    · rcases List.mem_cons.1 h with rfl | he
      · exact ⟨t, List.mem_cons_self, rfl⟩
      · exact hrest he
    · exact hrest h

theorem Named.prune (h : Named t) (keep : List String → Bool) : Named (t.prune keep) := by
  induction h generalizing keep with
  | file content => exact .file content
  | @directory es hnodup hnames hentries ih =>
    rw [prune_directory]
    refine .directory (hnodup.sublist (map_fst_pruneEntries_sublist keep es)) ?_ ?_
    · intro e he
      obtain ⟨u, hu, -⟩ := exists_of_mem_pruneEntries he
      exact hnames (e.1, u) hu
    · intro e he
      obtain ⟨u, hu, heq⟩ := exists_of_mem_pruneEntries he
      rw [heq]
      exact ih _ hu _

/-! ## Files that are left -/

/-- A file is at a place if it was there and is kept. -/
theorem at?_prune (h : Named t) (keep : List String → Bool) :
    (t.prune keep).at? names = some (.file content) ↔
      t.at? names = some (.file content) ∧ (names = [] ∨ keep names = true) := by
  induction names generalizing t keep with
  | nil => cases t <;> simp [at?, FileTree.prune]
  | cons n names ih =>
    cases t with
    | file content' => simp [at?, FileTree.prune, entries]
    | directory es =>
      have hnodup : (es.map Prod.fst).Nodup := by
        cases h
        assumption
      rw [prune_directory, at?, at?, entries, entries, lookup_pruneEntries hnodup]
      cases hu : es.lookup n with
      | none => simp
      | some u =>
        have hnamed := (h.entry hu).2
        -- an entry that is a file has nothing below it but itself
        have hfile : ∀ content', u = .file content' → u.at? names = some (.file content) →
            names = [] := by
          rintro content' rfl hat
          cases names with
          | nil => rfl
          | cons m names => cases hat
        simp only [Option.bind_some]
        cases u with
        | file content' =>
          by_cases hkeep : keep [n] = true
          · simp only [isDirectory, hkeep, Bool.or_true, if_true, Option.bind_some, ih hnamed]
            refine and_congr_right fun hat => ?_
            simp [hfile content' rfl hat, hkeep]
          · simp only [isDirectory, hkeep, Bool.or_false, Bool.false_eq_true, if_false,
              Option.bind_none, reduceCtorEq, false_iff, not_and]
            intro hat
            simp [hfile content' rfl hat, hkeep]
        | directory es' =>
          simp only [isDirectory, Bool.true_or, if_true, Option.bind_some, ih hnamed]
          refine and_congr_right fun hat => ?_
          have hne : names ≠ [] := by
            rintro rfl
            cases hat
          simp [hne]

/-! ## Ways to directories -/

/-- The directories around a place, and what is left of them. -/
inductive Around (keep : List String → Bool) :
    List String → List FileTree → List FileTree → Prop
  | top : Around keep [] [] []
  | inside {names : List String} {around around' : List FileTree} {t : FileTree} (n : String) :
      Named t → Around keep names around around' →
      Around keep (names ++ [n]) (t :: around)
        (t.prune (fun rest => keep (names ++ rest)) :: around')

theorem follow_prune (hnamed : Named t) (h : Around keep names around around')
    (hfollow : follow around t ps = some (.directory es)) :
    follow around' (t.prune fun rest => keep (names ++ rest)) ps =
      some (.directory (pruneEntries (fun rest => keep (Path.resolve names ps ++ rest)) es)) := by
  induction ps generalizing t names around around' with
  | nil =>
    cases hfollow
    rw [follow, prune_directory]
    rfl
  | cons p ps ih =>
    cases t with
    | file content => cases hfollow
    | directory entries =>
      rw [prune_directory, follow_directory, Path.resolve]
      rw [follow_directory] at hfollow
      split at hfollow
      next hback =>
        rw [if_pos hback, if_pos hback]
        cases h with
        | top => cases hfollow
        | inside n houter h =>
          rw [List.dropLast_concat]
          exact ih houter h hfollow
      next hback =>
        rw [if_neg hback, if_neg hback]
        have hnodup : (entries.map Prod.fst).Nodup := by
          cases hnamed
          assumption
        obtain ⟨u, hu, hfollow⟩ := Option.bind_eq_some_iff.1 hfollow
        have hdirectory : u.isDirectory = true := by
          cases u with
          | directory es' => rfl
          | file content => cases ps <;> cases hfollow
        rw [lookup_pruneEntries hnodup, hu, Option.bind_some, hdirectory, Bool.true_or, if_pos rfl,
          Option.bind_some]
        have hinside := Around.inside p hnamed h
        have hrest := ih (hnamed.entry hu).2 hinside hfollow
        simpa only [List.append_assoc, List.singleton_append, prune_directory] using hrest

theorem find?_prune {tree : FileTree} {d : String} (hnamed : Named tree)
    (hd : tree.find? d = some (.directory es)) (keep : List String → Bool) :
    (tree.prune keep).find? d =
      some (.directory
        (pruneEntries (fun rest => keep (Path.resolve [] (Path.steps d) ++ rest)) es)) := by
  rw [find?] at hd ⊢
  split at hd
  · cases hd
  next hrelative =>
    obtain ⟨u, hfollow, hu⟩ := Option.bind_eq_some_iff.1 hd
    split at hu
    · cases hu
    · cases hu
      have hleft := follow_prune hnamed (Around.top : Around keep [] [] []) hfollow
      simp only [List.nil_append] at hleft
      rw [if_neg hrelative, hleft]
      simp [isDirectory]

end FileTree

/-! ## Grammar files that are left -/

open FileTree

variable {tree : FileTree} {d : String} {es : List (String × FileTree)} {gone : List String}

/-- A file below a directory is at the place of the directory, followed by the names on the way. -/
theorem place?_below {names : List String} {content : ByteArray}
    (hd : tree.find? d = some (.directory es)) (hnames : ∀ n ∈ names, Path.IsName n)
    (hat : (FileTree.directory es).at? names = some (.file content)) :
    tree.place? (Path.below d names) = some (Path.resolve [] (Path.steps d) ++ names) := by
  have hne : names ≠ [] := by
    rintro rfl
    cases hat
  rw [place?, find?_below hd hnames hne, hat, Path.steps_below d hnames]
  exact congrArg some (Path.resolve_append (fun n hn => (hnames n hn).2.2.1) [] (Path.steps d))

/-- The places of the grammar files in a tree are given by it. -/
theorem GrammarPlaces.unique {t : FileTree} {places places' : List (List String)}
    (h : GrammarPlaces t places) (h' : GrammarPlaces t places') : places = places' :=
  List.Pairwise.eq_of_mem_iff h.ascending h'.ascending fun names =>
    (h.mem_iff names).trans (h'.mem_iff names).symm

theorem GrammarPlaces.prune {t : FileTree} {places : List (List String)} (hnamed : Named t)
    (h : GrammarPlaces t places) (keep : List String → Bool) :
    GrammarPlaces (t.prune keep) (places.filter keep) := by
  refine ⟨h.ascending.filter _, fun names => ?_⟩
  rw [List.mem_filter, h.mem_iff]
  constructor
  · rintro ⟨⟨⟨content, hat⟩, hname⟩, hkept⟩
    exact ⟨⟨content, (at?_prune hnamed keep).2 ⟨hat, .inr hkept⟩⟩, hname⟩
  · rintro ⟨⟨content, hat⟩, name, hlast, hname⟩
    obtain ⟨hat, hkept⟩ := (at?_prune hnamed keep).1 hat
    have hne : names ≠ [] := by
      rintro rfl
      cases hlast
    exact ⟨⟨⟨content, hat⟩, name, hlast, hname⟩, hkept.resolve_left hne⟩

/-- A place below a directory is deleted if and only if the path of the walk that leads to it is
given. -/
theorem mem_filterMap_place?_iff {places : List (List String)} {names : List String}
    (hplace : ∀ names ∈ places,
      tree.place? (Path.below d names) = some (Path.resolve [] (Path.steps d) ++ names))
    (hgone : gone ⊆ places.map (Path.below d)) (hnames : names ∈ places) :
    Path.resolve [] (Path.steps d) ++ names ∈ gone.filterMap tree.place? ↔
      Path.below d names ∈ gone := by
  rw [List.mem_filterMap]
  constructor
  · rintro ⟨path, hpath, hp⟩
    obtain ⟨names', hnames', rfl⟩ := List.mem_map.1 (hgone hpath)
    rw [hplace names' hnames', Option.some.injEq, List.append_cancel_left_eq] at hp
    exact hp ▸ hpath
  · exact fun hpath => ⟨_, hpath, hplace names hnames⟩

/-- When some of the grammar files below a directory are deleted, the others are found in the same
order, and hold what they held. -/
theorem grammarFiles_without (h : tree.Named) (hd : tree.find? d = some (.directory es))
    (hgone : gone ⊆ grammarFiles d (.directory es)) :
    ∃ es', (tree.without gone).find? d = some (.directory es') ∧
      grammarFiles d (.directory es') =
        (grammarFiles d (.directory es)).filter (fun path => path ∉ gone) ∧
      ∀ path ∈ grammarFiles d (.directory es'),
        (tree.without gone).readText? path = tree.readText? path := by
  have hnamed := named_of_find? h hd
  obtain ⟨places, hplaces, hnames, hfiles⟩ := grammarFiles_spec hnamed d
  rw [hfiles] at hgone
  have hleft := find?_prune h hd fun names => names ∉ gone.filterMap tree.place?
  obtain ⟨places', hplaces', hnames', hfiles'⟩ :=
    grammarFiles_spec (named_of_find? (h.prune _) hleft) d
  have hplace : ∀ names ∈ places,
      tree.place? (Path.below d names) = some (Path.resolve [] (Path.steps d) ++ names) := by
    intro names hmem
    obtain ⟨⟨content, hat⟩, -⟩ := (hplaces.mem_iff names).1 hmem
    exact place?_below hd (hnames names hmem).2 hat
  have hpruned := hplaces.prune hnamed fun names =>
    Path.resolve [] (Path.steps d) ++ names ∉ gone.filterMap tree.place?
  rw [prune_directory] at hpruned
  have hspared : places' = places.filter fun names => Path.below d names ∉ gone := by
    rw [hplaces'.unique hpruned]
    refine List.filter_congr fun names hmem => ?_
    simp only [mem_filterMap_place?_iff hplace hgone hmem]
  refine ⟨_, hleft, ?_, ?_⟩
  · rw [hfiles', hspared, hfiles, List.filter_map]
    rfl
  · intro path hpath
    rw [hfiles'] at hpath
    obtain ⟨names, hmem, rfl⟩ := List.mem_map.1 hpath
    obtain ⟨hne, hisName⟩ := hnames' names hmem
    obtain ⟨⟨content, hcontent⟩, -⟩ := (hplaces'.mem_iff names).1 hmem
    have hat := hcontent
    rw [← prune_directory, at?_prune hnamed] at hat
    rw [readText?, readText?, without, find?_below hleft hisName hne, hcontent,
      find?_below hd hisName hne, hat.1]

end Tint
