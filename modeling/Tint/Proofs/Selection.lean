import Mathlib.Data.List.Nodup
import Tint.Proofs.Faults
import Tint.Proofs.Numbering
import Tint.Proofs.Sessions

/-!
# Grammars selected by name

Names are given in any order and more than once. A registry looks up their places, sorts them, takes
each of them once, and fetches the grammars from there. What comes of it is said without places
(`Selects`): the grammars of the registry as they lie there, those left out whose names are not
given.

**Places (`sort_eraseReps`).** Sorted places, each taken once, are the places from the first to the
last of the list, those left out that are not among them. Two lists that ascend strictly and have
the same members are the same, so it is enough to compare members.

**Names (`mem_places_iff`).** No name is registered twice, so a place is among those looked up just
when the name that is registered there is given.

**Theorem (`session_selects`).** So after any session a selection is answered as `Selects` says. The
first name that is not registered is the one that is refused, since the names are looked up in the
order in which they are given.
-/

namespace Tint

/-! ## Sorted places -/

section Places

variable {α : Type} {places : List Nat} {i : Nat}

/-- What is left of an ascending list that starts with `a`, where runs are cut down to one member:
it ascends strictly, and no member is lost. -/
theorem exists_eraseReps_loop {a : Nat} {l : List Nat} (acc : List Nat)
    (h : (a :: l).Pairwise (· ≤ ·)) :
    ∃ kept, List.eraseRepsBy.loop (· == ·) a l acc = acc.reverse ++ kept ∧
      kept.Pairwise (· < ·) ∧ ∀ i, i ∈ kept ↔ i ∈ a :: l := by
  induction l generalizing a acc with
  | nil => exact ⟨[a], by simp [List.eraseRepsBy.loop], by simp, fun i => Iff.rfl⟩
  | cons b l ih =>
    obtain ⟨ha, hl⟩ := List.pairwise_cons.1 h
    by_cases hab : a = b
    · subst hab
      obtain ⟨kept, hkept, hpairs, hmem⟩ := ih acc hl
      refine ⟨kept, ?_, hpairs, ?_⟩
      · simp [List.eraseRepsBy.loop, hkept]
      · intro i
        simp [hmem]
    · obtain ⟨kept, hkept, hpairs, hmem⟩ := ih (a :: acc) hl
      refine ⟨a :: kept, ?_, ?_, ?_⟩
      · have hne : (a == b) = false := by simpa using hab
        simp [List.eraseRepsBy.loop, hne, hkept]
      · refine List.pairwise_cons.2 ⟨?_, hpairs⟩
        intro i hi
        have hlt : a < b := by
          have hle := ha b List.mem_cons_self
          omega
        rcases List.mem_cons.1 ((hmem i).1 hi) with rfl | hi
        · exact hlt
        · exact hlt.trans_le ((List.pairwise_cons.1 hl).1 i hi)
      · intro i
        rw [List.mem_cons, hmem, ← List.mem_cons]

theorem eraseReps_spec {l : List Nat} (h : l.Pairwise (· ≤ ·)) :
    l.eraseReps.Pairwise (· < ·) ∧ ∀ i, i ∈ l.eraseReps ↔ i ∈ l := by
  cases l with
  | nil => exact ⟨.nil, fun i => Iff.rfl⟩
  | cons a l =>
    obtain ⟨kept, hkept, hpairs, hmem⟩ := exists_eraseReps_loop [] h
    have heq : (a :: l).eraseReps = kept := hkept
    rw [heq]
    exact ⟨hpairs, hmem⟩

/-- Sorted places, each taken once, are those below any bound that are among them. -/
theorem sort_eraseReps {n : Nat} (h : ∀ i ∈ places, i < n) :
    places.mergeSort.eraseReps = (List.range n).filter (· ∈ places) := by
  have hsorted : places.mergeSort.Pairwise (· ≤ ·) := by
    have hle : places.mergeSort.Pairwise fun i j => decide (i ≤ j) = true := by
      apply List.pairwise_mergeSort
      · intro i j k
        simpa using Nat.le_trans
      · intro i j
        simpa using Nat.le_total i j
    simpa using hle
  obtain ⟨hpairs, hmem⟩ := eraseReps_spec hsorted
  have hrange : ((List.range n).filter (· ∈ places)).Pairwise (· < ·) :=
    List.pairwise_lt_range.sublist List.filter_sublist
  refine List.Perm.eq_of_pairwise (fun i j _ _ hij hji => absurd hji hij.asymm) hpairs hrange ?_
  rw [List.perm_ext_iff_of_nodup (hpairs.imp fun hlt => hlt.ne) (hrange.imp fun hlt => hlt.ne)]
  intro i
  rw [hmem, List.mem_mergeSort, List.mem_filter, List.mem_range, decide_eq_true_eq]
  exact ⟨fun hi => ⟨h i hi, hi⟩, And.right⟩

example : [2, 0, 2].mergeSort.eraseReps = [0, 2] := by cbv

theorem filterMap_getElem?_range (l : List α) :
    (List.range l.length).filterMap (fun i => l[i]?) = l := by
  induction l with
  | nil => rfl
  | cons a l ih =>
    rw [List.length_cons, List.range_succ_eq_map, List.filterMap_cons, List.filterMap_map]
    exact congrArg (a :: ·) ih

/-- What lies at sorted places, each taken once, is the list without what lies at other places. -/
theorem filterMap_sort_eraseReps {l : List α} {p : α → Bool} (hlt : ∀ i ∈ places, i < l.length)
    (hp : ∀ i a, l[i]? = some a → (i ∈ places ↔ p a = true)) :
    places.mergeSort.eraseReps.filterMap (fun i => l[i]?) = l.filter p := by
  have hsplit : l.filter p = (List.range l.length).filterMap fun i => (l[i]?).filter p := by
    conv_lhs => rw [← filterMap_getElem?_range l]
    rw [List.filter_filterMap]
  rw [sort_eraseReps hlt, hsplit, List.filterMap_filter]
  refine List.filterMap_congr fun i hi => ?_
  obtain ⟨a, hget⟩ : ∃ a, l[i]? = some a := ⟨_, List.getElem?_eq_getElem (List.mem_range.1 hi)⟩
  have hiff := hp i a hget
  rw [hget]
  by_cases hmem : i ∈ places
  · simp [hmem, Option.filter, hiff.1 hmem]
  · have hno : p a = false := by simpa using mt hiff.2 hmem
    simp [hmem, Option.filter, hno]

end Places

namespace Registry

open Grammar

variable {r : Registry} {entries : List (String × Grammar)} {names : List String}
  {answer : Except LexError (List Grammar)}

/-! ## The rule -/

/-- How a registry with these entries answers a selection. -/
inductive Selects : List (String × Grammar) → List String → Except LexError (List Grammar) → Prop
  | noGrammars (names : List String) : Selects [] names (.error .noGrammars)
  | all {entries : List (String × Grammar)} :
      entries ≠ [] → Selects entries [] (.ok (entries.map Prod.snd))
  /-- The first name that is not registered is refused. -/
  | unknown {entries : List (String × Grammar)} {before : List String} {name : String}
      (after : List String) :
      entries ≠ [] → (∀ other ∈ before, other ∈ entries.map Prod.fst) →
      name ∉ entries.map Prod.fst →
      Selects entries (before ++ name :: after) (.error (.unknownLanguage name))
  | named {entries : List (String × Grammar)} {names : List String} :
      entries ≠ [] → names ≠ [] → (∀ name ∈ names, name ∈ entries.map Prod.fst) →
      Selects entries names (.ok ((entries.map Prod.snd).filter fun g => g.name ∈ names))

/-! ## Places of names -/

theorem place_eq_ok_iff {name : String} {i : Nat} :
    r.place name = .ok i ↔ r.names[i]? = some name := by
  have hnodup : r.names.Nodup := r.grammars.nodup
  rw [← idxOf?_eq_some_iff_getElem? hnodup, place]
  cases r.names.idxOf? name <;> simp

theorem place_reports (r : Registry) (name : String) :
    Reports (r.place name) (if name ∈ r.names then [] else [.unknownLanguage name]) := by
  unfold place
  cases hplace : r.names.idxOf? name with
  | none =>
    rw [if_neg (List.idxOf?_eq_none_iff.1 hplace)]
    exact .error _ _
  | some i =>
    rw [if_pos (List.isSome_idxOf?.1 (by rw [hplace]; rfl))]
    exact .ok i

/-- The first name that is not registered ends the search for places. -/
theorem mapM_place_eq_error {before after : List String} {name : String}
    (hbefore : ∀ other ∈ before, other ∈ r.names) (hname : name ∉ r.names) :
    (before ++ name :: after).mapM r.place = .error (.unknownLanguage name) := by
  rw [(Reports.mapM r.place_reports _).eq_error_iff, List.flatMap_append, List.flatMap_cons,
    if_neg hname]
  have hnone : before.flatMap (fun other =>
      if other ∈ r.names then [] else [LexError.unknownLanguage other]) = [] := by
    rw [List.flatMap_eq_nil_iff]
    intro other hother
    exact if_pos (hbefore other hother)
  rw [hnone]
  rfl

theorem exists_mapM_place (h : ∀ name ∈ names, name ∈ r.names) :
    ∃ places, names.mapM r.place = .ok places := by
  rw [(Reports.mapM r.place_reports names).exists_ok_iff, List.flatMap_eq_nil_iff]
  intro name hname
  exact if_pos (h name hname)

theorem mem_places_iff {places : List Nat} (h : names.mapM r.place = .ok places) {i : Nat}
    {name : String} (hi : r.names[i]? = some name) : i ∈ places ↔ name ∈ names := by
  have hall := Except.mapM_eq_ok_iff.1 h
  constructor
  · intro hmem
    obtain ⟨k, hk, rfl⟩ := List.mem_iff_getElem.1 hmem
    have hk' : k < names.length := hall.length_eq ▸ hk
    have hplace := place_eq_ok_iff.1 (hall.get hk' hk)
    have heq : names[k] = name := Option.some.inj (hplace.symm.trans hi)
    exact heq ▸ List.getElem_mem hk'
  · intro hmem
    obtain ⟨k, hk, rfl⟩ := List.mem_iff_getElem.1 hmem
    have hk' : k < places.length := hall.length_eq ▸ hk
    have hplace : r.place names[k] = .ok places[k] := hall.get hk hk'
    rw [place_eq_ok_iff.2 hi] at hplace
    cases hplace
    exact List.getElem_mem hk'

theorem lt_size_of_mem_places {places : List Nat} (h : names.mapM r.place = .ok places) :
    ∀ i ∈ places, i < r.all.length := by
  intro i hi
  have hall := Except.mapM_eq_ok_iff.1 h
  obtain ⟨k, hk, rfl⟩ := List.mem_iff_getElem.1 hi
  have hplace := place_eq_ok_iff.1 (hall.get (hall.length_eq ▸ hk) hk)
  obtain ⟨hlt, -⟩ := List.getElem?_eq_some_iff.1 hplace
  rw [Registry.names, OrderedMap.names, List.length_map] at hlt
  rw [all, OrderedMap.values, List.length_map]
  exact hlt

/-! ## One selection -/

/-- Where all names are registered, a selection leaves out the grammars that are not named. -/
theorem select_eq_ok (hkeyed : Keyed r.grammars.entries) (hne : r.grammars.entries ≠ [])
    (hnames : names ≠ []) (h : ∀ name ∈ names, name ∈ r.names) :
    r.select names = .ok (r.all.filter fun g => g.name ∈ names) := by
  obtain ⟨places, hplaces⟩ := exists_mapM_place h
  have hempty : r.isEmpty = false := by simpa [isEmpty, OrderedMap.isEmpty] using hne
  have hgiven : names.isEmpty = false := by simpa using hnames
  simp only [select, hempty, hgiven, hplaces, Bool.false_eq_true, if_false, Except.map]
  congr 1
  refine filterMap_sort_eraseReps (lt_size_of_mem_places hplaces) ?_
  intro i g hi
  rw [all, OrderedMap.values, List.getElem?_map, Option.map_eq_some_iff] at hi
  obtain ⟨e, he, rfl⟩ := hi
  have hname : r.names[i]? = some e.1 := by
    rw [Registry.names, OrderedMap.names, List.getElem?_map, he]
    rfl
  rw [mem_places_iff hplaces hname, hkeyed.name_eq e (List.mem_of_getElem? he), decide_eq_true_eq]

/-- A registry answers a selection as the rule says. -/
theorem selects_select (hkeyed : Keyed r.grammars.entries) (names : List String) :
    Selects r.grammars.entries names (r.select names) := by
  by_cases hentries : r.grammars.entries = []
  · have hempty : r.isEmpty = true := by simp [isEmpty, OrderedMap.isEmpty, hentries]
    rw [hentries, select, if_pos hempty]
    exact .noGrammars names
  have hempty : r.isEmpty = false := by simpa [isEmpty, OrderedMap.isEmpty] using hentries
  by_cases hnames : names = []
  · rw [hnames, select, hempty]
    exact .all hentries
  by_cases hall : ∀ name ∈ names, name ∈ r.names
  · rw [select_eq_ok hkeyed hentries hnames hall]
    exact .named hentries hnames hall
  -- the names up to the first one that is not registered
  have hsome : (names.find? fun name => name ∉ r.names).isSome := by simpa using hall
  obtain ⟨name, hfind⟩ := Option.isSome_iff_exists.1 hsome
  obtain ⟨hname, before, after, rfl, hbefore⟩ := List.find?_eq_some_iff_append.1 hfind
  have hgiven : (before ++ name :: after).isEmpty = false := by simp
  have hname : name ∉ r.names := by simpa using hname
  have hbefore : ∀ other ∈ before, other ∈ r.names := by simpa using hbefore
  rw [select, hempty, hgiven, mapM_place_eq_error hbefore hname]
  exact .unknown after hentries hbefore hname

/-- A selection names each of its grammars once. -/
theorem Selects.nodup {selected : List Grammar} (h : Selects entries names (.ok selected))
    (hkeyed : Keyed entries) : (selected.map (·.name)).Nodup := by
  have hnames : (entries.map Prod.snd).map (·.name) = entries.map Prod.fst := by
    rw [List.map_map]
    exact List.map_congr_left hkeyed.name_eq
  have hall : ((entries.map Prod.snd).map (·.name)).Nodup := hnames ▸ hkeyed.nodup
  cases h with
  | all => exact hall
  | named => exact hall.sublist (List.filter_sublist.map _)

/-! ## Whole sessions -/

/-- **A selection is the list of registered grammars, less those that are not named.** After any
sequence of requests to a registry that was empty, and for any names, a selection is refused where
nothing is registered, and then for the first name that is not registered. Otherwise it has the
grammars with these names, or all if no name is given, in the order of registration and each
once. -/
theorem session_selects (qs : List Request) (names : List String) :
    ∃ entries, Follows [] qs (empty.session qs).1 entries ∧ (empty.session qs).2.Shows entries ∧
      Selects entries names ((empty.session qs).2.select names) ∧
      ∀ selected, (empty.session qs).2.select names = .ok selected →
        (selected.map (·.name)).Nodup := by
  obtain ⟨hfollows, hkeyed⟩ := session_spec empty qs keyed_nil
  have hselects := selects_select hkeyed names
  refine ⟨_, hfollows, shows_entries _, hselects, ?_⟩
  intro selected hselected
  rw [hselected] at hselects
  exact hselects.nodup hkeyed

end Registry

end Tint
