import Mathlib.Data.List.TakeDrop
import Mathlib.Data.List.Basic
import Mathlib.Order.Basic
import Tint.Files.Tree
import Tint.OrderedMap

/-!
# Walking through a directory

A file below a directory is known by the names on the way to it. Its path is made by joining these
names one after the other (`Path.below`), and split again it gives them back behind the steps of the
directory (`Path.steps_below`); so a path that a walk gives leads to the file where it was found
(`FileTree.find?_below`), however the directory itself was written.

**Order (`FileTree.walk_spec`).** A walk in depth that takes the entries of each directory by their
names comes to the files in the order of their lists of names, as words are ordered in a dictionary.
It comes to every file once and to nothing else. The induction is on the tree: the walks through the
entries of a directory are put one behind the other, and their first names ascend.
-/

namespace Tint

/-! ## Paths -/

namespace Path

/-- A name that an entry of a directory can have. -/
def IsName (n : String) : Prop := n ≠ "" ∧ n ≠ "." ∧ n ≠ ".." ∧ '/' ∉ n.toList

instance (n : String) : Decidable (IsName n) :=
  inferInstanceAs (Decidable (_ ∧ _ ∧ _ ∧ _))

/-- The path of the place that some names lead to from a directory. -/
def below (directory : String) (names : List String) : String := names.foldl join directory

variable {a b d n : String} {names : List String}

theorem parts_slash (h : d.toList = a.toList ++ '/' :: b.toList) :
    parts d = parts a ++ parts b := by
  rw [parts, h, List.splitOn_append_cons_self, List.map_append]
  rfl

theorem IsName.parts_eq (h : IsName n) : parts n = [n] := by
  rw [parts, List.splitOn_eq_singleton h.2.2.2, List.map_singleton, String.ofList_toList]

theorem IsName.isAbsolute_eq (h : IsName n) : isAbsolute n = false := by
  rw [isAbsolute, String.startsWith_string_eq_false_iff]
  rintro ⟨rest, hrest⟩
  exact h.2.2.2 (hrest ▸ List.mem_cons_self)

/-- The last part of a joined path is the name, and the others are as good as those of the
directory. -/
theorem exists_parts_join (d : String) (h : IsName n) :
    ∃ front, parts (join d n) = front ++ [n] ∧
      front.filter (fun p => p != "" && p != ".") = steps d := by
  rw [join, if_neg (by simp [h.isAbsolute_eq])]
  by_cases hempty : d = ""
  · subst hempty
    rw [if_pos (by simp), String.empty_append, h.parts_eq]
    exact ⟨[], rfl, rfl⟩
  by_cases hslash : d.endsWith "/" = true
  · have hsuffix := String.Slice.endsWith_string_iff.1 hslash
    rw [String.copy_toSlice] at hsuffix
    obtain ⟨front, hfront⟩ := hsuffix
    have hd : d.toList = (String.ofList front).toList ++ '/' :: "".toList := by simp [← hfront]
    have hjoin : (d ++ n).toList = (String.ofList front).toList ++ '/' :: n.toList := by
      simp [← hfront]
    rw [if_pos (by simp [hslash]), parts_slash hjoin, h.parts_eq, steps, parts_slash hd]
    refine ⟨_, rfl, ?_⟩
    -- behind the slash that the directory ends in there is an empty part, which does not count
    rw [List.filter_append, show parts "" = [""] from rfl]
    simp
  · have hjoin : (d ++ "/" ++ n).toList = d.toList ++ '/' :: n.toList := by simp
    rw [if_neg (by simp [hempty, hslash]), parts_slash hjoin, h.parts_eq]
    exact ⟨_, rfl, rfl⟩

theorem steps_join (d : String) (h : IsName n) : steps (join d n) = steps d ++ [n] := by
  obtain ⟨front, hparts, hfront⟩ := exists_parts_join d h
  rw [steps, hparts, List.filter_append, hfront, List.filter_cons_of_pos (by simp [h.1, h.2.1])]
  rfl

theorem namesDirectory_join (d : String) (h : IsName n) : namesDirectory (join d n) = false := by
  obtain ⟨front, hparts, -⟩ := exists_parts_join d h
  simp [namesDirectory, hparts, h.1, h.2.1]

theorem isAbsolute_join (h : IsName n) (hd : isAbsolute d = false) :
    isAbsolute (join d n) = false := by
  rw [join, if_neg (by simp [h.isAbsolute_eq])]
  cases hchars : d.toList with
  | nil =>
    obtain rfl := String.toList_eq_nil_iff.1 hchars
    rw [if_pos (by simp), String.empty_append, h.isAbsolute_eq]
  | cons c cs =>
    simp only [isAbsolute, String.startsWith_string_eq_false_iff] at hd ⊢
    split <;> simp_all

/-! ## Paths below a directory -/

theorem steps_below (d : String) (h : ∀ n ∈ names, IsName n) :
    steps (below d names) = steps d ++ names := by
  induction names generalizing d with
  | nil => exact (List.append_nil _).symm
  | cons n names ih =>
    rw [List.forall_mem_cons] at h
    have hrest := ih (join d n) h.2
    rwa [steps_join d h.1, List.append_assoc] at hrest

theorem isAbsolute_below (h : ∀ n ∈ names, IsName n) (hd : isAbsolute d = false) :
    isAbsolute (below d names) = false := by
  induction names generalizing d with
  | nil => exact hd
  | cons n names ih =>
    rw [List.forall_mem_cons] at h
    exact ih h.2 (isAbsolute_join h.1 hd)

theorem below_concat (d : String) (names : List String) (n : String) :
    below d (names ++ [n]) = join (below d names) n :=
  List.foldl_append ..

theorem name?_below (d : String) (h : ∀ n ∈ names, IsName n) (hlast : names.getLast? = some n) :
    name? (below d names) = some n := by
  have hn := h n (List.mem_of_getLast? hlast)
  rw [name?, steps_below d h, List.getLast?_append, hlast]
  simp [hn.2.2.1]

theorem below_injOn {names' : List String} (h : ∀ n ∈ names, IsName n)
    (h' : ∀ n ∈ names', IsName n) (heq : below d names = below d names') : names = names' := by
  have hsteps := congrArg steps heq
  rw [steps_below d h, steps_below d h'] at hsteps
  exact List.append_cancel_left hsteps

end Path

/-! ## Trees -/

namespace FileTree

/-- No two entries of a directory have the same name, and every name is one. -/
inductive Named : FileTree → Prop
  | file (content : ByteArray) : Named (.file content)
  | directory {entries : List (String × FileTree)} :
      (entries.map Prod.fst).Nodup → (∀ e ∈ entries, Path.IsName e.1) →
      (∀ e ∈ entries, Named e.2) → Named (.directory entries)

/-- The tree that some names lead to. -/
def at? : FileTree → List String → Option FileTree
  | t, [] => some t
  | t, n :: names => (t.entries.lookup n).bind fun u => u.at? names

variable {t u : FileTree} {around : List FileTree} {names ps : List String} {d : String}

theorem follow_directory (around : List FileTree) (es : List (String × FileTree)) (p : String)
    (ps : List String) :
    follow around (.directory es) (p :: ps) =
      if p = ".." then
        match around with
        | [] => none
        | outer :: around => follow around outer ps
      else (es.lookup p).bind fun u => follow (.directory es :: around) u ps :=
  rfl

/-- Where there is no way back, what stands around does not matter. -/
theorem follow_names (h : ∀ n ∈ names, n ≠ "..") (around : List FileTree) (t : FileTree) :
    follow around t names = t.at? names := by
  induction names generalizing around t with
  | nil => rfl
  | cons n names ih =>
    rw [List.forall_mem_cons] at h
    cases t with
    | file content => rfl
    | directory es =>
      rw [follow_directory, if_neg h.1]
      simp only [ih h.2]
      rfl

theorem follow_append (h : ∀ n ∈ names, n ≠ "..") (around : List FileTree) (t : FileTree) :
    follow around t (ps ++ names) = (follow around t ps).bind (·.at? names) := by
  induction ps generalizing around t with
  | nil => exact follow_names h around t
  | cons p ps ih =>
    cases t with
    | file content => rfl
    | directory es =>
      rw [List.cons_append, follow_directory, follow_directory]
      split
      · cases around with
        | nil => rfl
        | cons outer around => exact ih around outer
      · rw [Option.bind_assoc]
        simp only [ih]

theorem find?_below {tree : FileTree} (hd : tree.find? d = some t)
    (h : ∀ n ∈ names, Path.IsName n) (hne : names ≠ []) :
    tree.find? (Path.below d names) = t.at? names := by
  obtain ⟨front, last, rfl⟩ : ∃ front last, names = front ++ [last] :=
    ⟨_, _, (List.dropLast_concat_getLast hne).symm⟩
  rw [find?] at hd
  split at hd
  · cases hd
  next hrelative =>
  obtain ⟨u, hfollow, hu⟩ := Option.bind_eq_some_iff.1 hd
  split at hu
  · cases hu
  cases hu
  have hdirectory : Path.namesDirectory (Path.below d (front ++ [last])) = false := by
    rw [Path.below_concat]
    exact Path.namesDirectory_join _ (h last (by simp))
  rw [find?, if_neg (by simp [Path.isAbsolute_below h (by simpa using hrelative)]),
    Path.steps_below d h, follow_append fun n hn => (h n hn).2.2.1, hfollow, hdirectory]
  simp

/-! ## Trees with names -/

theorem Named.entry {es : List (String × FileTree)} {n : String} (h : Named (.directory es))
    (hn : es.lookup n = some u) : Path.IsName n ∧ Named u := by
  cases h with
  | directory hnodup hnames hentries =>
    have hmem := (OrderedMap.lookup_eq_some_iff_mem hnodup).1 hn
    exact ⟨hnames _ hmem, hentries _ hmem⟩

/-- What a path leads to in a tree with names is a tree with names. -/
theorem named_of_follow (h : Named t) (haround : ∀ u ∈ around, Named u)
    (hfollow : follow around t ps = some u) : Named u := by
  induction ps generalizing around t with
  | nil =>
    cases hfollow
    exact h
  | cons p ps ih =>
    cases t with
    | file content => cases hfollow
    | directory es =>
      rw [follow_directory] at hfollow
      split at hfollow
      · cases around with
        | nil => cases hfollow
        | cons outer around =>
          rw [List.forall_mem_cons] at haround
          exact ih haround.1 haround.2 hfollow
      · obtain ⟨v, hv, hfollow⟩ := Option.bind_eq_some_iff.1 hfollow
        exact ih (h.entry hv).2 (List.forall_mem_cons.2 ⟨h, haround⟩) hfollow

theorem named_of_find? {tree : FileTree} (h : Named tree) (hd : tree.find? d = some t) :
    Named t := by
  rw [find?] at hd
  split at hd
  · cases hd
  · obtain ⟨u, hfollow, hu⟩ := Option.bind_eq_some_iff.1 hd
    split at hu
    · cases hu
    · cases hu
      exact named_of_follow h (List.forall_mem_nil _) hfollow

theorem Named.isName_of_at? (h : Named t) (hat : t.at? names = some u) :
    ∀ n ∈ names, Path.IsName n := by
  induction names generalizing t with
  | nil => exact List.forall_mem_nil _
  | cons n names ih =>
    obtain ⟨v, hv, hrest⟩ := Option.bind_eq_some_iff.1 hat
    cases t with
    | file content => cases hv
    | directory es =>
      obtain ⟨hn, hnamed⟩ := h.entry hv
      exact List.forall_mem_cons.2 ⟨hn, ih hnamed hrest⟩

/-! ## Walks -/

theorem walkEntries_eq_map (d : String) (es : List (String × FileTree)) :
    walkEntries d es = es.map fun e => (e.1, walk (Path.join d e.1) e.2) := by
  induction es with
  | nil => rfl
  | cons e es ih => rw [walkEntries, ih, List.map_cons]

/-- The entries of a directory in the order of their names. -/
def byName (es : List (String × FileTree)) : List (String × FileTree) :=
  es.mergeSort fun a b => decide (a.1 ≤ b.1)

theorem mem_byName {es : List (String × FileTree)} {e : String × FileTree} :
    e ∈ byName es ↔ e ∈ es :=
  (List.mergeSort_perm ..).mem_iff

theorem pairwise_byName {es : List (String × FileTree)} (hnodup : (es.map Prod.fst).Nodup) :
    (byName es).Pairwise fun a b => a.1 < b.1 := by
  have hle : (byName es).Pairwise fun a b => decide (a.1 ≤ b.1) = true := by
    refine List.pairwise_mergeSort ?_ ?_ es
    · exact fun a b c hab hbc => decide_eq_true
        (String.le_trans (of_decide_eq_true hab) (of_decide_eq_true hbc))
    · intro a b
      simpa using String.le_total a.1 b.1
  have hne : (byName es).Pairwise fun a b => a.1 ≠ b.1 := by
    have hperm := (List.mergeSort_perm es fun a b => decide (a.1 ≤ b.1)).map Prod.fst
    exact List.pairwise_map.1 (hperm.nodup_iff.2 hnodup)
  exact hle.imp₂ (fun a b hab hne => Std.lt_of_le_of_ne (of_decide_eq_true hab) hne) hne

theorem walk_directory (d : String) (es : List (String × FileTree)) :
    walk d (.directory es) = (byName es).flatMap fun e => walk (Path.join d e.1) e.2 := by
  have hsort : (byName es).map (fun e => (e.1, walk (Path.join d e.1) e.2)) =
      (walkEntries d es).mergeSort fun a b => decide (a.1 ≤ b.1) := by
    rw [walkEntries_eq_map, byName]
    exact List.map_mergeSort fun _ _ _ _ => rfl
  rw [walk, inOrder, ← hsort, List.flatMap_map]

/-- **A walk comes to every file once, in the order of their names.** -/
theorem walk_spec (h : Named t) (d : String) :
    ∃ places : List (List String), walk d t = places.map (Path.below d) ∧
      places.Pairwise (· < ·) ∧
      ∀ names, names ∈ places ↔ ∃ content, t.at? names = some (.file content) := by
  induction h generalizing d with
  | file content =>
    refine ⟨[[]], rfl, List.pairwise_singleton _ _, fun names => ?_⟩
    cases names with
    | nil => simp [at?]
    | cons n names => simp [at?, entries]
  | @directory es hnodup hnames hentries ih =>
    have hplaces : ∀ e : String × FileTree, ∃ places : List (List String), e ∈ es →
        walk (Path.join d e.1) e.2 = places.map (Path.below (Path.join d e.1)) ∧
          places.Pairwise (· < ·) ∧
          ∀ names, names ∈ places ↔ ∃ content, e.2.at? names = some (.file content) := by
      intro e
      by_cases he : e ∈ es
      · obtain ⟨places, h⟩ := ih e he (Path.join d e.1)
        exact ⟨places, fun _ => h⟩
      · exact ⟨[], fun h => absurd h he⟩
    choose places hplaces using hplaces
    refine ⟨(byName es).flatMap fun e => (places e).map (e.1 :: ·), ?_, ?_, fun names => ?_⟩
    · rw [walk_directory, List.map_flatMap]
      refine List.flatMap_congr fun e he => ?_
      rw [(hplaces e (mem_byName.1 he)).1, List.map_map]
      rfl
    · refine List.pairwise_flatMap.2 ⟨fun e he => ?_, (pairwise_byName hnodup).imp ?_⟩
      · refine List.pairwise_map.2 ((hplaces e (mem_byName.1 he)).2.1.imp fun hlt => ?_)
        exact List.cons_lt_cons_iff.2 (.inr ⟨rfl, hlt⟩)
      · intro a b hlt x hx y hy
        obtain ⟨x, -, rfl⟩ := List.mem_map.1 hx
        obtain ⟨y, -, rfl⟩ := List.mem_map.1 hy
        exact List.cons_lt_cons_iff.2 (.inl hlt)
    · simp only [List.mem_flatMap, mem_byName, List.mem_map]
      constructor
      · rintro ⟨e, he, rest, hrest, rfl⟩
        obtain ⟨content, hat⟩ := ((hplaces e he).2.2 rest).1 hrest
        have hlookup : es.lookup e.1 = some e.2 :=
          (OrderedMap.lookup_eq_some_iff_mem hnodup).2 he
        exact ⟨content, by rw [at?, entries, hlookup]; exact hat⟩
      · rintro ⟨content, hat⟩
        cases names with
        | nil => cases hat
        | cons n rest =>
          obtain ⟨u, hu, hat⟩ := Option.bind_eq_some_iff.1 hat
          have he := (OrderedMap.lookup_eq_some_iff_mem hnodup).1 hu
          exact ⟨(n, u), he, rest, ((hplaces _ he).2.2 rest).2 ⟨content, hat⟩, rfl⟩

end FileTree

end Tint
