import Tint.Grammar.Definition
import Tint.Grammar.KeywordTable
import Mathlib.Data.Finset.Card
import Mathlib.Data.List.Find

/-!
# Keywords from their author to the table

The author of a mode adds words to categories, one addition after the other (`Additions`). The
definition keeps them sorted by category, the table sorted by word. Both are lists that only grow at
the end, so an addition that names a known category, or a word that has a category, changes nothing
that was there before.

**Theorem (`keywords_follow_additions`).** The table gives a word to the category that was added
first among all those that ever received the word, whatever stood between their additions.

The proof has two halves. What a category holds is proved by induction over the additions
(`Additions.get?_keywords`, `Additions.names_keywords`). What the table answers is proved by
induction over the categories and over the words of each (`get?_ofKeywords`): it is the first
category that has the word.
-/

namespace Tint

/-! ## First occurrences -/

section FirstOccurrences

variable {α : Type} [DecidableEq α]

theorem eraseDups_concat (l : List α) (a : α) :
    (l ++ [a]).eraseDups = if a ∈ l then l.eraseDups else l.eraseDups ++ [a] := by
  rw [List.eraseDups_append, List.removeAll]
  by_cases h : a ∈ l
  · rw [if_pos h, List.filter_cons_of_neg (by simpa using h), List.filter_nil, List.eraseDups_nil,
      List.append_nil]
  · rw [if_neg h, List.filter_cons_of_pos (by simpa using h), List.filter_nil, List.eraseDups_cons,
      List.filter_nil, List.eraseDups_nil]

theorem find?_eraseDups (p : α → Bool) (l : List α) : l.eraseDups.find? p = l.find? p := by
  induction l using List.reverseRecOn with
  | nil => rfl
  | append_singleton l a ih =>
    rw [eraseDups_concat]
    split
    · next hmem =>
      rw [ih, List.find?_append]
      cases hfind : l.find? p with
      | some b => rfl
      | none => simp [List.find?_eq_none.1 hfind a hmem]
    · rw [List.find?_append, List.find?_append, ih]

theorem find?_eq_some_iff_idxOf_le {p : α → Bool} {l : List α} {a : α} :
    l.find? p = some a ↔ a ∈ l ∧ p a = true ∧ ∀ b ∈ l, p b = true → l.idxOf a ≤ l.idxOf b := by
  induction l with
  | nil => simp
  | cons x l ih =>
    by_cases hx : p x = true
    · rw [List.find?_cons_of_pos hx]
      constructor
      · rintro h
        cases h
        exact ⟨List.mem_cons_self, hx, fun b _ _ => by simp⟩
      · rintro ⟨-, -, hle⟩
        have hzero := hle x List.mem_cons_self hx
        rw [List.idxOf_cons_self, Nat.le_zero] at hzero
        rw [← List.idxOf_cons_self (a := x) (l := l),
          eq_comm, List.idxOf_inj (List.mem_cons_self)] at hzero
        rw [hzero]
    · have hne : ∀ b, p b = true → x ≠ b := fun b hb hxb => hx (hxb ▸ hb)
      rw [List.find?_cons_of_neg hx, ih]
      constructor
      · rintro ⟨hmem, ha, hle⟩
        refine ⟨List.mem_cons_of_mem _ hmem, ha, fun b hb hpb => ?_⟩
        rw [List.idxOf_cons_ne _ (hne a ha), List.idxOf_cons_ne _ (hne b hpb)]
        exact Nat.succ_le_succ (hle b (List.mem_of_ne_of_mem (hne b hpb).symm hb) hpb)
      · rintro ⟨hmem, ha, hle⟩
        refine ⟨List.mem_of_ne_of_mem (hne a ha).symm hmem, ha, fun b hb hpb => ?_⟩
        have hsucc := hle b (List.mem_cons_of_mem _ hb) hpb
        rw [List.idxOf_cons_ne _ (hne a ha), List.idxOf_cons_ne _ (hne b hpb)] at hsucc
        exact Nat.le_of_succ_le_succ hsucc

end FirstOccurrences

/-! ## Additions -/

/-- What an author adds to the keywords of a mode: words for a category, again and again. -/
abbrev Additions := List (String × List String)

namespace Additions

/-- When a category first came up: the place of the first addition to it. -/
def turn (additions : Additions) (category : String) : Nat :=
  (additions.map Prod.fst).idxOf category

/-- All words added to a category, in their order. -/
def wordsOf (additions : Additions) (category : String) : List String :=
  (additions.filter fun a => a.1 = category).flatMap Prod.snd

/-- All words, in their order. -/
def allWords (additions : Additions) : List String := additions.flatMap Prod.snd

/-- The category is ever given a word that is compared like this one. -/
def Receives (additions : Additions) (ignoreCase : Bool) (category word : String) : Prop :=
  ∃ a ∈ additions, a.1 = category ∧
    ∃ w ∈ a.2, KeywordTable.normalize ignoreCase w = KeywordTable.normalize ignoreCase word

instance (additions : Additions) (ignoreCase : Bool) (category word : String) :
    Decidable (additions.Receives ignoreCase category word) :=
  inferInstanceAs (Decidable (∃ a ∈ additions, a.1 = category ∧
    ∃ w ∈ a.2, KeywordTable.normalize ignoreCase w = KeywordTable.normalize ignoreCase word))

theorem mem_wordsOf {additions : Additions} {category word : String} :
    word ∈ additions.wordsOf category ↔ ∃ a ∈ additions, a.1 = category ∧ word ∈ a.2 := by
  simp [wordsOf, and_assoc]

theorem wordsOf_concat (additions : Additions) (a : String × List String) (category : String) :
    wordsOf (additions ++ [a]) category =
      if a.1 = category then additions.wordsOf category ++ a.2 else additions.wordsOf category := by
  by_cases h : a.1 = category <;> simp [wordsOf, List.filter_append, h]

theorem wordsOf_eq_nil {additions : Additions} {category : String}
    (h : category ∉ additions.map Prod.fst) : additions.wordsOf category = [] := by
  refine List.eq_nil_iff_forall_not_mem.2 fun word hword => h ?_
  obtain ⟨a, ha, rfl, -⟩ := mem_wordsOf.1 hword
  exact List.mem_map_of_mem ha

theorem Receives.mem {additions : Additions} {ignoreCase : Bool} {category word : String}
    (h : additions.Receives ignoreCase category word) : category ∈ additions.map Prod.fst := by
  obtain ⟨a, ha, rfl, -⟩ := h
  exact List.mem_map_of_mem ha

end Additions

/-- A mode after all these additions. -/
def ModeDefinition.adding (m : ModeDefinition) (additions : Additions) : ModeDefinition :=
  additions.foldl (fun m a => m.withKeywords a.1 a.2) m

/-! ## What a definition keeps -/

/-- No category of the mode has a word. -/
def ModeDefinition.Wordless (m : ModeDefinition) : Prop := ∀ e ∈ m.keywords.entries, e.2.words = []

instance (m : ModeDefinition) : Decidable m.Wordless :=
  inferInstanceAs (Decidable (∀ e ∈ m.keywords.entries, e.2.words = []))

namespace KeywordSet

theorem words_insert (s : KeywordSet) (word : String) :
    (s.insert word).words = if word ∈ s.words then s.words else s.words ++ [word] := by
  unfold insert
  split <;> rfl

theorem extend_append (s : KeywordSet) (ws vs : List String) :
    s.extend (ws ++ vs) = (s.extend ws).extend vs :=
  List.foldl_append

theorem words_ofList (ws : List String) : (ofList ws).words = ws.eraseDups := by
  induction ws using List.reverseRecOn with
  | nil => rfl
  | append_singleton ws w ih =>
    have hmem : w ∈ ws.eraseDups ↔ w ∈ ws := List.mem_eraseDups
    rw [ofList, extend_append]
    show ((ofList ws).insert w).words = _
    rw [words_insert, ih, eraseDups_concat]
    simp only [hmem]

end KeywordSet

namespace Keywords

theorem get?_extend (k : Keywords) (category other : String) (ws : List String) :
    (k.extend category ws).get? other =
      if other = category then some (((k.get? category).getD .empty).extend ws)
      else k.get? other :=
  OrderedMap.get?_put ..

theorem names_extend (k : Keywords) (category : String) (ws : List String) :
    (k.extend category ws).names =
      if category ∈ k.names then k.names else k.names ++ [category] :=
  OrderedMap.names_put ..

theorem extend_extend (k : Keywords) (category : String) (ws vs : List String) :
    Keywords.extend (k.extend category ws) category vs = k.extend category (ws ++ vs) := by
  rw [Keywords.extend, get?_extend, if_pos rfl, Option.getD_some, ← KeywordSet.extend_append,
    Keywords.extend, OrderedMap.put_put]
  rfl

end Keywords

namespace Additions

variable (additions : Additions)

/-- The keywords that the additions make up. -/
def keywords : Keywords := additions.foldl (fun k a => k.extend a.1 a.2) .empty

theorem keywords_concat (a : String × List String) :
    keywords (additions ++ [a]) = Keywords.extend additions.keywords a.1 a.2 :=
  List.foldl_append

theorem get?_keywords (category : String) :
    additions.keywords.get? category =
      if category ∈ additions.map Prod.fst then some (.ofList (additions.wordsOf category))
      else none := by
  induction additions using List.reverseRecOn generalizing category with
  | nil => rfl
  | append_singleton additions a ih =>
    -- a category without an addition is taken for one without words
    have hset : ((keywords additions).get? a.1).getD .empty = .ofList (wordsOf additions a.1) := by
      rw [ih]
      split
      · rfl
      · next h =>
        rw [wordsOf_eq_nil h]
        rfl
    rw [keywords_concat, Keywords.get?_extend, hset, ih, wordsOf_concat]
    by_cases h : category = a.1
    · rw [if_pos h, if_pos (by simp [h]), if_pos h.symm, h, KeywordSet.ofList, KeywordSet.ofList,
        KeywordSet.extend_append]
    · have hmem : category ∈ (additions ++ [a]).map Prod.fst ↔
          category ∈ additions.map Prod.fst := by simp [h]
      rw [if_neg h, if_neg (Ne.symm h)]
      simp only [hmem]

theorem names_keywords : additions.keywords.names = (additions.map Prod.fst).eraseDups := by
  induction additions using List.reverseRecOn with
  | nil => rfl
  | append_singleton additions a ih =>
    have hmem : a.1 ∈ (additions.map Prod.fst).eraseDups ↔ a.1 ∈ additions.map Prod.fst :=
      List.mem_eraseDups
    rw [keywords_concat, Keywords.names_extend, ih, List.map_append, List.map_singleton,
      eraseDups_concat]
    simp only [hmem]

theorem mem_entries_keywords {e : String × KeywordSet} :
    e ∈ additions.keywords.entries ↔
      e.1 ∈ additions.map Prod.fst ∧ e.2 = .ofList (additions.wordsOf e.1) := by
  obtain ⟨category, set⟩ := e
  rw [← OrderedMap.get?_eq_some_iff, get?_keywords]
  split
  · next h => simp [h, eq_comm]
  · next h => simp [h]

end Additions

namespace ModeDefinition

theorem keywords_adding (m : ModeDefinition) (additions : Additions) :
    ({ m with keywords := .empty }.adding additions).keywords = additions.keywords := by
  induction additions using List.reverseRecOn with
  | nil => rfl
  | append_singleton additions a ih =>
    rw [Additions.keywords_concat, ← ih, adding, List.foldl_append]
    rfl

/-- Additions to one category that follow each other may as well be one. -/
theorem adding_merge (m : ModeDefinition) (before after : Additions) (category : String)
    (ws vs : List String) :
    m.adding (before ++ (category, ws) :: (category, vs) :: after) =
      m.adding (before ++ (category, ws ++ vs) :: after) := by
  simp only [adding, List.foldl_append, List.foldl_cons, withKeywords, Keywords.extend_extend]

end ModeDefinition

/-! ## What a table answers -/

namespace KeywordTable

variable (ignoreCase : Bool)

theorem get?_add (category : String) (words : OrderedMap String) (word key : String) :
    (add ignoreCase category words word).get? key =
      (words.get? key).or (if normalize ignoreCase word = key then some category else none) := by
  simp only [add]
  split
  · next h =>
    -- the word has a category, which stays
    rw [OrderedMap.contains, Option.isSome_iff_exists] at h
    obtain ⟨held, h⟩ := h
    split
    · next heq =>
      rw [← heq, h]
      rfl
    · rw [Option.or_none]
  · next h =>
    have hnone : words.get? (normalize ignoreCase word) = none :=
      OrderedMap.get?_eq_none_iff.2 (Bool.eq_false_iff.2 h)
    rw [OrderedMap.get?_put]
    by_cases heq : key = normalize ignoreCase word
    · rw [if_pos heq, if_pos heq.symm, heq, hnone]
      rfl
    · rw [if_neg heq, if_neg (Ne.symm heq), Option.or_none]

/-- The words of one category: those that have none yet are given this one. -/
theorem get?_foldl_add (category : String) (ws : List String) (words : OrderedMap String)
    (key : String) :
    (ws.foldl (add ignoreCase category) words).get? key =
      (words.get? key).or
        (if ∃ w ∈ ws, normalize ignoreCase w = key then some category else none) := by
  induction ws generalizing words with
  | nil => simp
  | cons w ws ih =>
    rw [List.foldl_cons, ih, get?_add, Option.or_assoc]
    congr 1
    by_cases hw : normalize ignoreCase w = key <;> simp [hw]

theorem get?_ofKeywords (keywords : Keywords) (key : String) :
    (ofKeywords keywords ignoreCase).words.get? key =
      (keywords.entries.find? fun e => ∃ w ∈ e.2.words, normalize ignoreCase w = key).map
        Prod.fst := by
  have hfold : ∀ (entries : List (String × KeywordSet)) (words : OrderedMap String),
      (entries.foldl (fun words e => e.2.words.foldl (add ignoreCase e.1) words) words).get? key =
        (words.get? key).or
          ((entries.find? fun e => ∃ w ∈ e.2.words, normalize ignoreCase w = key).map
            Prod.fst) := by
    intro entries
    induction entries with
    | nil => simp
    | cons e entries ih =>
      intro words
      rw [List.foldl_cons, ih, get?_foldl_add, Option.or_assoc]
      congr 1
      by_cases he : ∃ w ∈ e.2.words, normalize ignoreCase w = key
      · rw [if_pos he, List.find?_cons_of_pos (by simpa using he)]
        rfl
      · rw [if_neg he, List.find?_cons_of_neg (by simpa using he), Option.none_or]
  exact hfold keywords.entries .empty

/-- A table made from keywords answers with one of its categories. -/
theorem category?_mem {t : KeywordTable} {keywords : Keywords} {ignoreCase : Bool}
    (ht : t = ofKeywords keywords ignoreCase) {word c : String} (h : t.category? word = some c) :
    c ∈ t.categories := by
  subst ht
  rw [category?, get?_ofKeywords, Option.map_eq_some_iff] at h
  obtain ⟨e, he, rfl⟩ := h
  exact List.mem_map_of_mem (List.mem_of_find?_eq_some he)

theorem mem_words_ofKeywords {keywords : Keywords} {key : String} :
    key ∈ (ofKeywords keywords ignoreCase).words.names ↔
      ∃ e ∈ keywords.entries, ∃ w ∈ e.2.words, normalize ignoreCase w = key := by
  rw [← OrderedMap.contains_eq_true_iff, OrderedMap.contains, get?_ofKeywords, Option.isSome_map,
    List.find?_isSome]
  simp only [decide_eq_true_eq]

theorem isEmpty_ofKeywords_iff {keywords : Keywords} :
    (ofKeywords keywords ignoreCase).isEmpty = true ↔ ∀ e ∈ keywords.entries, e.2.words = [] := by
  have hempty : (ofKeywords keywords ignoreCase).isEmpty = true ↔
      (ofKeywords keywords ignoreCase).words.names = [] := by
    rw [isEmpty, OrderedMap.isEmpty, List.isEmpty_iff, OrderedMap.names, List.map_eq_nil_iff]
  simp only [hempty, List.eq_nil_iff_forall_not_mem, mem_words_ofKeywords]
  constructor
  · exact fun h e he w hw => h (normalize ignoreCase w) ⟨e, he, w, hw, rfl⟩
  · rintro h key ⟨e, he, w, hw, -⟩
    exact h e he w hw

end KeywordTable

/-! ## The table of a sequence of additions -/

namespace Additions

variable (additions : Additions) (ignoreCase : Bool)

/-- A category that was added has a word exactly where it received it. -/
theorem receives_iff {e : String × KeywordSet} (he : e ∈ additions.keywords.entries)
    {word : String} :
    (∃ w ∈ e.2.words,
        KeywordTable.normalize ignoreCase w = KeywordTable.normalize ignoreCase word) ↔
      additions.Receives ignoreCase e.1 word := by
  rw [((mem_entries_keywords additions).1 he).2, KeywordSet.words_ofList]
  simp only [List.mem_eraseDups, mem_wordsOf, Receives]
  constructor
  · rintro ⟨w, ⟨a, ha, hc, hw⟩, heq⟩
    exact ⟨a, ha, hc, w, hw, heq⟩
  · rintro ⟨a, ha, hc, w, hw, heq⟩
    exact ⟨w, ⟨a, ha, hc, hw⟩, heq⟩

theorem category?_keywords (word : String) :
    (KeywordTable.ofKeywords additions.keywords ignoreCase).category? word =
      (additions.map Prod.fst).find? fun c => additions.Receives ignoreCase c word := by
  have hfind : (additions.keywords.entries.find? fun e => ∃ w ∈ e.2.words,
      KeywordTable.normalize ignoreCase w = KeywordTable.normalize ignoreCase word) =
        additions.keywords.entries.find?
          ((fun c => decide (additions.Receives ignoreCase c word)) ∘ Prod.fst) :=
    List.find?_congr fun e he => decide_eq_decide.2 (receives_iff additions ignoreCase he)
  rw [KeywordTable.category?, KeywordTable.get?_ofKeywords]
  rw [KeywordTable.ofKeywords, hfind, ← List.find?_map]
  show additions.keywords.names.find? _ = _
  rw [names_keywords, find?_eraseDups]

/-- A word belongs to the category that was first added to among those that receive it. -/
theorem category?_keywords_eq_some_iff {word category : String} :
    (KeywordTable.ofKeywords additions.keywords ignoreCase).category? word = some category ↔
      additions.Receives ignoreCase category word ∧
        ∀ other, additions.Receives ignoreCase other word →
          additions.turn category ≤ additions.turn other := by
  rw [category?_keywords, find?_eq_some_iff_idxOf_le]
  simp only [decide_eq_true_eq]
  constructor
  · rintro ⟨-, hreceives, hfirst⟩
    exact ⟨hreceives, fun other hother => hfirst other hother.mem hother⟩
  · rintro ⟨hreceives, hfirst⟩
    exact ⟨hreceives.mem, hreceives, fun other _ hother => hfirst other hother⟩

theorem category?_keywords_eq_none_iff {word : String} :
    (KeywordTable.ofKeywords additions.keywords ignoreCase).category? word = none ↔
      ∀ category, ¬additions.Receives ignoreCase category word := by
  rw [category?_keywords, List.find?_eq_none]
  simp only [decide_eq_true_eq]
  constructor
  · intro h category hreceives
    exact h category hreceives.mem hreceives
  · exact fun h category _ => h category

/-- The words of a category come in the order in which they were first added to it. -/
theorem map_words_keywords (category : String) :
    (additions.keywords.get? category).map (·.words) =
      if category ∈ additions.map Prod.fst then some (additions.wordsOf category).eraseDups
      else none := by
  rw [get?_keywords]
  split
  · rw [Option.map_some, KeywordSet.words_ofList]
  · rfl

/-- The table knows a word exactly if it was added to some category. -/
theorem mem_words_keywords {key : String} :
    key ∈ (KeywordTable.ofKeywords additions.keywords ignoreCase).words.names ↔
      key ∈ additions.allWords.map (KeywordTable.normalize ignoreCase) := by
  rw [KeywordTable.mem_words_ofKeywords, allWords]
  simp only [List.mem_map, List.mem_flatMap]
  constructor
  · rintro ⟨e, he, w, hw, rfl⟩
    rw [((mem_entries_keywords additions).1 he).2, KeywordSet.words_ofList, List.mem_eraseDups,
      mem_wordsOf] at hw
    obtain ⟨a, ha, -, hw⟩ := hw
    exact ⟨w, ⟨a, ha, hw⟩, rfl⟩
  · rintro ⟨w, ⟨a, ha, hw⟩, rfl⟩
    refine ⟨(a.1, .ofList (additions.wordsOf a.1)), ?_, w, ?_, rfl⟩
    · exact (mem_entries_keywords additions).2 ⟨List.mem_map_of_mem ha, rfl⟩
    · rw [KeywordSet.words_ofList, List.mem_eraseDups, mem_wordsOf]
      exact ⟨a, ha, rfl, hw⟩

theorem size_keywords :
    (KeywordTable.ofKeywords additions.keywords ignoreCase).size =
      (additions.allWords.map (KeywordTable.normalize ignoreCase)).toFinset.card := by
  have hnodup := (KeywordTable.ofKeywords additions.keywords ignoreCase).words.nodup
  rw [KeywordTable.size, OrderedMap.size, ← List.length_map Prod.fst,
    ← List.toFinset_card_of_nodup hnodup]
  congr 1
  ext key
  rw [List.mem_toFinset, List.mem_toFinset]
  exact mem_words_keywords additions ignoreCase

end Additions

/-- However words are added to the categories of a mode that has none, a word belongs to the
category that was first added to before all others that ever receive it. The categories come in the
order of the first additions to them, and the words of each in the order in which they were first
added to it. The table holds every word once as it is compared, and additions to one category that
follow each other may as well be one. -/
theorem keywords_follow_additions (m : ModeDefinition) (additions : Additions) (ignoreCase : Bool) :
    let mode := { m with keywords := .empty }.adding additions
    let table := KeywordTable.ofKeywords mode.keywords ignoreCase
    (∀ word category, table.category? word = some category ↔
      additions.Receives ignoreCase category word ∧
        ∀ other, additions.Receives ignoreCase other word →
          additions.turn category ≤ additions.turn other) ∧
      (∀ word, table.category? word = none ↔
        ∀ category, ¬additions.Receives ignoreCase category word) ∧
      table.categories = (additions.map Prod.fst).eraseDups ∧
      (∀ category, (mode.keywords.get? category).map (·.words) =
        if category ∈ additions.map Prod.fst then some (additions.wordsOf category).eraseDups
        else none) ∧
      table.size = (additions.allWords.map (KeywordTable.normalize ignoreCase)).toFinset.card ∧
      ∀ (before after : Additions) (category : String) (ws vs : List String),
        { m with keywords := .empty }.adding
            (before ++ (category, ws) :: (category, vs) :: after) =
          { m with keywords := .empty }.adding (before ++ (category, ws ++ vs) :: after) := by
  intro mode table
  have hkeywords : mode.keywords = additions.keywords := m.keywords_adding additions
  have htable : table = .ofKeywords additions.keywords ignoreCase :=
    congrArg (KeywordTable.ofKeywords · ignoreCase) hkeywords
  rw [htable, hkeywords]
  exact ⟨fun _ _ => additions.category?_keywords_eq_some_iff ignoreCase,
    fun _ => additions.category?_keywords_eq_none_iff ignoreCase, additions.names_keywords,
    additions.map_words_keywords, additions.size_keywords ignoreCase,
    ModeDefinition.adding_merge _⟩

/-- Words that differ in case alone are one word where case is ignored. -/
example :
    let table := KeywordTable.ofKeywords
      (({} : ModeDefinition).adding [("a", ["x"]), ("b", ["Y", "X"]), ("a", ["y"])]).keywords true
    table.category? "y" = some "a" ∧ table.size = 2 := by
  decide

end Tint
