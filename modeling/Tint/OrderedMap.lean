/-!
# Ordered maps

A map from names to values that remembers the order in which the names came in. Giving a name a
new value keeps its place; a name that comes back after it was removed goes to the end.

**Main facts.** `get?_put` and `get?_erase` say how a look-up sees a change, `names_put` and
`names_erase` how the order does.
-/

namespace Tint

/-- A map with its names in the order they came in; no name occurs twice. -/
structure OrderedMap (α : Type) where
  entries : List (String × α) := []
  nodup : (entries.map Prod.fst).Nodup := by simp

namespace OrderedMap

variable {α : Type}

instance [DecidableEq α] : DecidableEq (OrderedMap α) := fun a b =>
  if h : a.entries = b.entries then .isTrue (by cases a; cases b; simp_all)
  else .isFalse fun e => h (e ▸ rfl)

/-- The map without names. -/
def empty : OrderedMap α := {}

instance : Inhabited (OrderedMap α) := ⟨empty⟩

/-- The names in order. -/
def names (m : OrderedMap α) : List String := m.entries.map Prod.fst

/-- The values in the order of their names. -/
def values (m : OrderedMap α) : List α := m.entries.map Prod.snd

def size (m : OrderedMap α) : Nat := m.entries.length

def isEmpty (m : OrderedMap α) : Bool := m.entries.isEmpty

/-- The value of a name. -/
def get? (m : OrderedMap α) (name : String) : Option α := m.entries.lookup name

def contains (m : OrderedMap α) (name : String) : Bool := (m.get? name).isSome

/-- Replace the value of a name in a list of entries, or add the name at the end. -/
def putEntry (name : String) (value : α) : List (String × α) → List (String × α)
  | [] => [(name, value)]
  | (k, v) :: rest => if name = k then (k, value) :: rest else (k, v) :: putEntry name value rest

theorem map_fst_putEntry (name : String) (value : α) (l : List (String × α)) :
    (putEntry name value l).map Prod.fst =
      if name ∈ l.map Prod.fst then l.map Prod.fst else l.map Prod.fst ++ [name] := by
  induction l with
  | nil => simp [putEntry]
  | cons e l ih =>
    obtain ⟨k, v⟩ := e
    by_cases h : name = k
    · simp [putEntry, h]
    · rw [putEntry, if_neg h, List.map_cons, ih]
      by_cases hm : name ∈ l.map Prod.fst
      · rw [if_pos hm, if_pos (by simp only [List.map_cons, List.mem_cons]; exact .inr hm)]
        rfl
      · rw [if_neg hm, if_neg (by simp only [List.map_cons, List.mem_cons]; simp [h, hm])]
        rfl

/-- Give a name a value. -/
def put (m : OrderedMap α) (name : String) (value : α) : OrderedMap α where
  entries := putEntry name value m.entries
  nodup := by
    rw [map_fst_putEntry]
    split
    · exact m.nodup
    · next h => exact List.nodup_append.2 ⟨m.nodup, by simp, by rintro _ ha _ hb; simp_all; grind⟩

/-- Remove a name. -/
def erase (m : OrderedMap α) (name : String) : OrderedMap α where
  entries := m.entries.filter fun e => e.1 != name
  nodup := m.nodup.sublist (List.filter_sublist.map _)

theorem eq_of_entries {m m' : OrderedMap α} (h : m.entries = m'.entries) : m = m' := by
  cases m
  cases m'
  cases h
  rfl

theorem entries_put {m : OrderedMap α} {name : String} (h : name ∉ m.names) (value : α) :
    (m.put name value).entries = m.entries ++ [(name, value)] := by
  have hput : ∀ l : List (String × α), name ∉ l.map Prod.fst →
      putEntry name value l = l ++ [(name, value)] := by
    intro l
    induction l with
    | nil => exact fun _ => rfl
    | cons e l ih =>
      intro hl
      rw [List.map_cons, List.mem_cons, not_or] at hl
      rw [putEntry, if_neg hl.1, ih hl.2, List.cons_append]
  exact hput m.entries h

theorem names_put (m : OrderedMap α) (name : String) (value : α) :
    (m.put name value).names = if name ∈ m.names then m.names else m.names ++ [name] :=
  map_fst_putEntry name value m.entries

theorem names_erase (m : OrderedMap α) (name : String) :
    (m.erase name).names = m.names.filter (· != name) := by
  simp [names, erase, List.filter_map, Function.comp_def]

theorem lookup_cons {κ : Type} [BEq κ] [LawfulBEq κ] [DecidableEq κ] (k other : κ) (v : α)
    (l : List (κ × α)) :
    ((k, v) :: l).lookup other = if other = k then some v else l.lookup other := by
  by_cases h : other = k
  · simp [h]
  · have : (other == k) = false := by simp [h]
    simp [List.lookup_cons, this, h]

theorem lookup_eq_some_iff_mem {name : String} {value : α} {l : List (String × α)}
    (hnodup : (l.map Prod.fst).Nodup) : l.lookup name = some value ↔ (name, value) ∈ l := by
  induction l with
  | nil => simp
  | cons e l ih =>
    obtain ⟨k, v⟩ := e
    rw [List.map_cons, List.nodup_cons] at hnodup
    rw [lookup_cons, List.mem_cons, ← ih hnodup.2]
    by_cases hk : name = k
    · subst hk
      rw [if_pos rfl, ih hnodup.2]
      constructor
      · rintro h
        cases h
        exact .inl rfl
      · rintro (h | h)
        · cases h
          rfl
        · exact absurd (List.mem_map_of_mem h) hnodup.1
    · rw [if_neg hk]
      exact ⟨.inr, fun h => h.resolve_left fun heq => hk (congrArg Prod.fst heq)⟩

theorem lookup_putEntry (name other : String) (value : α) (l : List (String × α)) :
    (putEntry name value l).lookup other = if other = name then some value else l.lookup other := by
  induction l with
  | nil => simp [putEntry, lookup_cons]
  | cons e l ih =>
    obtain ⟨k, v⟩ := e
    by_cases h : name = k
    · subst h
      simp only [putEntry, if_true, lookup_cons]
      split <;> rfl
    · simp only [putEntry, if_neg h, lookup_cons, ih]
      grind

theorem lookup_filter (name other : String) (l : List (String × α)) :
    (l.filter fun e => e.1 != name).lookup other =
      if other = name then none else l.lookup other := by
  induction l with
  | nil => simp
  | cons e l ih =>
    obtain ⟨k, v⟩ := e
    by_cases h : k = name
    · rw [List.filter_cons_of_neg (by simp [h]), ih, lookup_cons]
      grind
    · rw [List.filter_cons_of_pos (by simp [h]), lookup_cons, ih, lookup_cons]
      grind

theorem get?_put (m : OrderedMap α) (name other : String) (value : α) :
    (m.put name value).get? other = if other = name then some value else m.get? other :=
  lookup_putEntry name other value m.entries

theorem get?_erase (m : OrderedMap α) (name other : String) :
    (m.erase name).get? other = if other = name then none else m.get? other :=
  lookup_filter name other m.entries

theorem get?_eq_some_iff {m : OrderedMap α} {name : String} {value : α} :
    m.get? name = some value ↔ (name, value) ∈ m.entries :=
  lookup_eq_some_iff_mem m.nodup

theorem contains_eq_true_iff {m : OrderedMap α} {name : String} :
    m.contains name = true ↔ name ∈ m.names := by
  rw [contains, Option.isSome_iff_exists, names, List.mem_map]
  constructor
  · rintro ⟨value, h⟩
    exact ⟨_, get?_eq_some_iff.1 h, rfl⟩
  · rintro ⟨e, h, rfl⟩
    exact ⟨e.2, get?_eq_some_iff.2 h⟩

theorem get?_eq_none_iff {m : OrderedMap α} {name : String} :
    m.get? name = none ↔ m.contains name = false := by
  rw [contains, Option.isSome_eq_false_iff, Option.isNone_iff_eq_none]

theorem contains_put (m : OrderedMap α) (name other : String) (value : α) :
    (m.put name value).contains other = (other == name || m.contains other) := by
  rw [contains, get?_put, contains]
  by_cases h : other = name <;> simp [h]

theorem put_put (m : OrderedMap α) (name : String) (value value' : α) :
    (m.put name value).put name value' = m.put name value' := by
  refine eq_of_entries ?_
  show putEntry name value' (putEntry name value m.entries) = putEntry name value' m.entries
  induction m.entries with
  | nil => simp [putEntry]
  | cons e l ih =>
    obtain ⟨k, v⟩ := e
    by_cases h : name = k
    · simp [putEntry, h]
    · simp only [putEntry, if_neg h, ih]

end OrderedMap

end Tint
