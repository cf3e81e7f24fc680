import Tint.Proofs.Json.Fields
import Tint.Proofs.Keywords

/-!
# Definitions in all their spellings

A definition has more than one JSON form. The fields of an object may come in any order, with others
between them that are not known; a field that has its default may be left out; the words of a
category may be the keys of an object, and may be repeated; and a mode may be the list of its
fields. Which values these are is said without the reader (`Spells`, `SpellsMode`, `SpellsWords`).

**Fields.** Of each field the reader takes over what is spelled, whatever it has read before, and of
a member that is not known nothing (`modeFields?_of_spells`, `Draft.fields?_of_spells`). So after
all members what has been read agrees with the definition in the fields that were given, and in the
others because they had their defaults to begin with. That is all of them, in whatever order they
came.

**Words.** Only where an order means something it is kept: categories come one behind the other, and
of the words of a category each counts where it comes first.

**Theorem (`parseJson?_of_spells`).** Every text of every spelling is read as the definition.
-/

namespace Tint

open Json (Value)
open Json.Value

/-! ## Values that are kept -/

/-- A value that can be kept until it is known what it is read as: its texts are Unicode, its
numbers can be read, and it is nested no deeper than `depth`. -/
inductive Json.Value.Keepable : Nat → Value → Prop
  | null (depth : Nat) : Keepable depth .null
  | bool (depth : Nat) (b : Bool) : Keepable depth (.bool b)
  | number {depth : Nat} {n : Json.Number} : n.isReadable = true → Keepable depth (.number n)
  | string (depth : Nat) (s : String) : Keepable depth (.ofString s)
  | array {depth : Nat} {items : List Value} :
      (∀ v ∈ items, Keepable depth v) → Keepable (depth + 1) (.array items)
  | object {depth : Nat} {members : List (String × Value)} :
      (∀ m ∈ members, Keepable depth m.2) → Keepable (depth + 1) (.ofMembers members)

namespace Document

theorem allKeepable_of_forall {depth : Nat} {ns : List Node}
    (h : ∀ n ∈ ns, n.keepable depth = true) : Node.allKeepable depth ns = true := by
  induction ns with
  | nil => rfl
  | cons n ns ih =>
    obtain ⟨hn, hns⟩ := List.forall_mem_cons.1 h
    rw [Node.allKeepable, hn, ih hns]
    rfl

theorem entriesKeepable_of_forall {depth : Nat} {members : List (String × Value)}
    (h : ∀ m ∈ members, (Node.ofJson m.2).keepable depth = true) :
    Node.entriesKeepable depth (members.map entryOf) = true := by
  induction members with
  | nil => rfl
  | cons m ms ih =>
    obtain ⟨hm, hms⟩ := List.forall_mem_cons.1 h
    rw [List.map_cons, entryOf, Node.entriesKeepable, hm, ih hms]
    rfl

theorem keepable_ofJson {depth : Nat} {v : Value} (h : v.Keepable depth) :
    (Node.ofJson v).keepable depth = true := by
  induction h with
  | null => rfl
  | bool => rfl
  | number hn => exact hn
  | string => rfl
  | array _ ih =>
    rw [Node.ofJson, ofJsonItems_eq_map, Node.keepable]
    exact allKeepable_of_forall (List.forall_mem_map.2 ih)
  | object _ ih =>
    rw [ofJson_ofMembers, Node.keepable]
    exact entriesKeepable_of_forall ih

/-! ## Spellings -/

/-- Members that give fields, none twice and in any order, and between them others whose names are
not those of fields. -/
structure GivesFields {F : Type} (text : F → String) (fields : List (F × Value))
    (others members : List (String × Value)) : Prop where
  perm : members.Perm (fields.map (fun g => (text g.1, g.2)) ++ others)
  nodup : (fields.map Prod.fst).Nodup
  unknown : ∀ o ∈ others, ∀ f, text f ≠ o.1

/-- The words of a category, as a list or as the keys of an object with values that do not matter.
Words may be repeated; each counts where it comes first. -/
inductive SpellsWords (depth : Nat) (s : KeywordSet) : Value → Prop
  | list {words : List String} : words.eraseDups = s.words → SpellsWords depth s (.ofStrings words)
  | object {members : List (String × Value)} :
      (members.map Prod.fst).eraseDups = s.words → (∀ m ∈ members, m.2.Keepable depth) →
      SpellsWords depth s (.ofMembers members)

/-- The value of a field of a mode that is `level` lists and objects deep. Only that of the keywords
is spelled in more than one way; its categories keep their order. -/
def ModeField.Spells (level : Nat) (m : ModeDefinition) : ModeField → Value → Prop
  | keywords, v => ∃ members, v = .ofMembers members ∧
      List.Forall₂ (fun e member => member.1 = e.1 ∧
          SpellsWords (jsonFormat.nestingLimit - (level + 3)) e.2 member.2)
        m.keywords.entries members
  | f, v => v = f.value m

/-- A field of a mode has its default. -/
def ModeField.IsDefault (m : ModeDefinition) : ModeField → Prop
  | className => m.className = ""
  | opener => m.beginSource = none
  | closer => m.endSource = none
  | illegal => m.illegalSource = none
  | contains => m.contains = []
  | keywords => m.keywords = .empty
  | lexems => m.lexems = []
  | relevance => m.relevance = 1

/-- A mode, as the object of its fields or as their list. -/
inductive SpellsMode (level : Nat) (m : ModeDefinition) : Value → Prop
  | object {fields : List (ModeField × Value)} {others members : List (String × Value)} :
      GivesFields ModeField.text fields others members →
      (∀ g ∈ fields, g.1.Spells level m g.2) →
      (∀ f, f ∉ fields.map Prod.fst → f.IsDefault m) → SpellsMode level m (.ofMembers members)
  /-- The fields at the end of the list are left out. -/
  | list {fields rest : List ModeField} {items : List Value} :
      ModeField.all = fields ++ rest →
      List.Forall₂ (fun f v => f.Spells level m v) fields items →
      (∀ f ∈ rest, f.IsDefault m) → SpellsMode level m (.array items)

/-- The value of a field of a definition. -/
def Field.Spells (d : GrammarDefinition) : Field → Value → Prop
  | defaultMode, v => SpellsMode 1 d.defaultMode v
  | modes, v => ∃ items, v = .array items ∧ List.Forall₂ (SpellsMode 2) d.modes items
  | f, v => v = f.value d

/-- A field of a definition has its default; the default mode has none. -/
def Field.IsDefault (d : GrammarDefinition) : Field → Prop
  | name => d.name = ""
  | caseInsensitive => d.options.caseInsensitive = false
  | multiLine => d.options.multiLine = true
  | defaultMode => False
  | modes => d.modes = []

/-- A definition, as the object of its fields. -/
inductive Spells (d : GrammarDefinition) : Value → Prop
  | object {fields : List (Field × Value)} {others members : List (String × Value)} :
      GivesFields Field.text fields others members → (∀ g ∈ fields, g.1.Spells d g.2) →
      (∀ f, f ∉ fields.map Prod.fst → f.IsDefault d) →
      (∀ o ∈ others, o.2.Keepable (jsonFormat.nestingLimit - 1)) → Spells d (.ofMembers members)

/-! ## What is printed is a spelling -/

theorem spellsWords_ofStrings (depth : Nat) (s : KeywordSet) :
    SpellsWords depth s (.ofStrings s.words) := by
  refine .list ?_
  rw [← KeywordSet.words_ofList, KeywordSet.ofList_words]

/-- All fields are given once, and there are no others. -/
theorem givesFields_values {F : Type} {text : F → String} (fields : List F)
    (value : F → Value) (hnodup : fields.Nodup) :
    GivesFields text (fields.map fun f => (f, value f)) []
      (fields.map fun f => (text f, value f)) where
  perm := by rw [List.map_map, List.append_nil]; rfl
  nodup := by rwa [List.map_map, show Prod.fst ∘ (fun f => (f, value f)) = id from rfl, List.map_id]
  unknown := nofun

theorem ModeField.spells_value (level : Nat) (m : ModeDefinition) (f : ModeField) :
    f.Spells level m (f.value m) := by
  cases f with
  | keywords =>
    refine ⟨_, rfl, List.forall₂_map_right_iff.2 (List.forall₂_same.2 fun e _ => ⟨rfl, ?_⟩)⟩
    exact spellsWords_ofStrings _ e.2
  | _ => rfl

theorem spellsMode_toJson (level : Nat) (m : ModeDefinition) : SpellsMode level m m.toJson := by
  refine .object (givesFields_values ModeField.all (fun f => f.value m) (by decide)) ?_ ?_
  · exact List.forall_mem_map.2 fun f _ => f.spells_value level m
  · intro f hf
    exact absurd (List.mem_map_of_mem (List.mem_map_of_mem (by cases f <;> decide))) hf

theorem Field.spells_value (d : GrammarDefinition) (f : Field) : f.Spells d (f.value d) := by
  cases f with
  | defaultMode => exact spellsMode_toJson 1 d.defaultMode
  | modes =>
    refine ⟨_, rfl, List.forall₂_map_right_iff.2 (List.forall₂_same.2 fun m _ => ?_)⟩
    exact spellsMode_toJson 2 m
  | _ => rfl

theorem spells_toJson (d : GrammarDefinition) : Spells d d.toJson := by
  refine .object (givesFields_values Field.all (fun f => f.value d) (by decide)) ?_ ?_ nofun
  · exact List.forall_mem_map.2 fun f _ => f.spells_value d
  · intro f hf
    exact absurd (List.mem_map_of_mem (List.mem_map_of_mem (by cases f <;> decide))) hf

/-! ## Words -/

theorem keywordSet?_of_spells {depth : Nat} {s : KeywordSet} {v : Value}
    (h : SpellsWords depth s v) : keywordSet? (depth + 1) (.ofJson v) = some s := by
  have hset : ∀ {words : List String}, words.eraseDups = s.words → KeywordSet.ofList words = s :=
    fun hwords => KeywordSet.eq_of_words ((KeywordSet.words_ofList _).trans hwords)
  cases h with
  | @list words hwords =>
    have hread : (words.map textNode).mapM word? = some words := mapM_map_eq_some fun w _ => rfl
    rw [ofJson_ofStrings, keywordSet?, Node.keepable, allKeepable_map_textNode, if_pos rfl]
    simp only [hread, Option.map_some, hset hwords]
  | @object members hwords hvalues =>
    have hread : (members.map entryOf).mapM (fun e => word? e.1) = some (members.map Prod.fst) := by
      rw [List.mapM_map]
      exact List.mapM_pure (f := Prod.fst)
    have hkept := entriesKeepable_of_forall fun m hm => keepable_ofJson (hvalues m hm)
    rw [ofJson_ofMembers, keywordSet?, Node.keepable, hkept, if_pos rfl]
    simp only [hread, Option.map_some, hset hwords]

/-- Categories that are new come behind those that are there, however their words are spelled. -/
theorem exists_foldlM_put_of_spells {depth : Nat} {es : List (String × KeywordSet)}
    {members : List (String × Value)}
    (h : List.Forall₂ (fun e m => m.1 = e.1 ∧ SpellsWords depth e.2 m.2) es members)
    (k : Keywords) (hnodup : (k.names ++ es.map Prod.fst).Nodup) :
    ∃ k' : Keywords, k'.entries = k.entries ++ es ∧
      (members.map entryOf).foldlM
        (fun (k : Keywords) e => do
          let category ← e.1.text?
          let words ← keywordSet? (depth + 1) e.2
          return k.put category words) k = some k' := by
  induction h generalizing k with
  | nil => exact ⟨k, (List.append_nil _).symm, rfl⟩
  | @cons e m es members hfirst _ ih =>
    obtain ⟨hname, hwords⟩ := hfirst
    have hnew : e.1 ∉ k.names := by
      intro hmem
      exact (List.nodup_append.1 hnodup).2.2 e.1 hmem e.1 List.mem_cons_self rfl
    have hrest : ((k.put e.1 e.2).names ++ es.map Prod.fst).Nodup := by
      rw [OrderedMap.names_put, if_neg hnew, List.append_assoc]
      exact hnodup
    obtain ⟨k', hentries, hfold⟩ := ih (k.put e.1 e.2) hrest
    refine ⟨k', ?_, ?_⟩
    · rw [hentries, OrderedMap.entries_put hnew, List.append_assoc]
      rfl
    · rw [List.map_cons, List.foldlM_cons, entryOf, keywordSet?_of_spells hwords, hname]
      exact hfold

theorem keywords?_of_spells {depth : Nat} {k : Keywords} {members : List (String × Value)}
    (h : List.Forall₂ (fun e m => m.1 = e.1 ∧ SpellsWords depth e.2 m.2) k.entries members) :
    keywords? (depth + 1) (.ofJson (.ofMembers members)) = some k := by
  obtain ⟨k', hentries, hfold⟩ := exists_foldlM_put_of_spells h .empty k.nodup
  rw [OrderedMap.eq_of_entries hentries] at hfold
  rw [ofJson_ofMembers]
  exact hfold

/-! ## Fields that are given -/

section Given

variable {F : Type} {text : F → String} {ofText? : String → Option F} {fields : List (F × Value)}
  {others members : List (String × Value)}

/-- The fields that members give, in the order of the members. -/
def givenBy (ofText? : String → Option F) (members : List (String × Value)) : List (F × Value) :=
  members.filterMap fun m => (ofText? m.1).map fun f => (f, m.2)

theorem givenBy_cons_of_unknown {m : String × Value} (h : ofText? m.1 = none)
    (ms : List (String × Value)) : givenBy ofText? (m :: ms) = givenBy ofText? ms :=
  List.filterMap_cons_none (by rw [h]; rfl)

theorem givenBy_cons_of_known {m : String × Value} {f : F} (h : ofText? m.1 = some f)
    (ms : List (String × Value)) : givenBy ofText? (m :: ms) = (f, m.2) :: givenBy ofText? ms :=
  List.filterMap_cons_some (by rw [h]; rfl)

theorem GivesFields.perm_givenBy (h : GivesFields text fields others members)
    (hof : ∀ name f, ofText? name = some f ↔ text f = name) :
    (givenBy ofText? members).Perm fields := by
  have hfields : givenBy ofText? (fields.map fun g => (text g.1, g.2)) = fields := by
    rw [givenBy, List.filterMap_map]
    conv_rhs => rw [← List.filterMap_some (l := fields)]
    refine List.filterMap_congr fun g _ => ?_
    simp [(hof _ _).2 rfl]
  have hothers : givenBy ofText? others = [] := by
    refine List.filterMap_eq_nil_iff.2 fun o ho => ?_
    have hunknown : ofText? o.1 = none := by
      refine Option.eq_none_iff_forall_ne_some.2 fun f hf => ?_
      exact h.unknown o ho f ((hof _ _).1 hf)
    rw [hunknown]
    rfl
  have hperm : (givenBy ofText? members).Perm
      (givenBy ofText? (fields.map fun g => (text g.1, g.2)) ++ givenBy ofText? others) := by
    have hmembers := h.perm.filterMap fun m => (ofText? m.1).map fun f => (f, m.2)
    rwa [List.filterMap_append] at hmembers
  rwa [hfields, hothers, List.append_nil] at hperm

end Given

/-! ## Modes -/

/-- Where the fields that are not taken over have their defaults, the mode is made anew. -/
theorem ModeField.foldl_copy_eq {m : ModeDefinition} {fields : List ModeField}
    (h : ∀ f, f ∉ fields → f.IsDefault m) :
    fields.foldl (fun into f => f.copy m into) {} = m := by
  refine eq_of_agrees fun f => ?_
  refine (foldl_of_copies (fun into f => f.copy m into) (fun into f => f.Agrees into m)
    (fun _ f g => agrees_copy f g) fields {} f).2 ?_
  refine or_iff_not_imp_left.2 fun hf => ?_
  have hdefault := h f hf
  cases f <;> exact (show _ = _ from hdefault).symm

variable {m : ModeDefinition} {level : Nat}

/-- Of each field what is spelled is taken over. -/
theorem ModeField.set?_of_spells (hm : FitsRelevance m.relevance) (hlevel : level < 124)
    (into : ModeDefinition) {f : ModeField} {v : Value} (h : f.Spells level m v) :
    f.set? (jsonFormat.nestingLimit - (level + 2)) into (.ofJson v) = some (f.copy m into) := by
  have hdepth : jsonFormat.nestingLimit - (level + 2) =
      jsonFormat.nestingLimit - (level + 3) + 1 := by
    show 127 - (level + 2) = 127 - (level + 3) + 1
    omega
  rw [hdepth]
  cases f with
  | className => rw [show v = _ from h]; rfl
  | opener => rw [show v = _ from h, value, set?, optionalText?_ofString?]; rfl
  | closer => rw [show v = _ from h, value, set?, optionalText?_ofString?]; rfl
  | illegal => rw [show v = _ from h, value, set?, optionalText?_ofString?]; rfl
  | contains => rw [show v = _ from h, value, set?, texts?_ofStrings]; rfl
  | keywords =>
    obtain ⟨members, rfl, hwords⟩ := h
    rw [set?, keywords?_of_spells hwords]
    rfl
  | lexems => rw [show v = _ from h, value, set?, texts?_ofStrings]; rfl
  | relevance => rw [show v = _ from h, value, set?, relevance?_ofInt hm]; rfl

/-- The members of an object give a mode the fields that are known, in the order in which they
come. -/
theorem modeFields?_of_spells (hm : FitsRelevance m.relevance) (hlevel : level < 124)
    (members : List (String × Value)) (given : List ModeField) (into : ModeDefinition)
    (hspells : ∀ g ∈ givenBy ModeField.ofText? members, g.1.Spells level m g.2)
    (hnodup : ((givenBy ModeField.ofText? members).map Prod.fst).Nodup)
    (hgiven : ∀ f ∈ (givenBy ModeField.ofText? members).map Prod.fst, f ∉ given) :
    modeFields? (jsonFormat.nestingLimit - (level + 2)) into given (members.map entryOf) =
      some (((givenBy ModeField.ofText? members).map Prod.fst).foldl
        (fun into f => f.copy m into) into) := by
  induction members generalizing given into with
  | nil => rfl
  | cons member members ih =>
    obtain ⟨k, v⟩ := member
    rw [List.map_cons, entryOf, modeFields?]
    simp only [Node.text?, Scalar.ofText, Option.bind_eq_bind, Option.bind_some]
    cases hk : ModeField.ofText? k with
    | none =>
      rw [givenBy_cons_of_unknown hk] at hspells hnodup hgiven ⊢
      exact ih given into hspells hnodup hgiven
    | some f =>
      rw [givenBy_cons_of_known hk] at hspells hnodup hgiven ⊢
      rw [List.map_cons] at hnodup hgiven ⊢
      obtain ⟨hv, hspells⟩ := List.forall_mem_cons.1 hspells
      have hfree : given.contains f = false := by simpa using hgiven f List.mem_cons_self
      have hfresh := fresh_of_nodup hnodup hgiven
      simp only [hfree, ModeField.set?_of_spells hm hlevel into hv, Option.bind_some,
        Bool.false_eq_true, if_false, List.foldl_cons]
      exact ih (f :: given) _ hspells (List.nodup_cons.1 hnodup).2 hfresh

theorem modeItems?_of_spells (hm : FitsRelevance m.relevance) (hlevel : level < 124)
    {fields : List ModeField} {items : List Value} (rest : List ModeField)
    (h : List.Forall₂ (fun f v => f.Spells level m v) fields items) (into : ModeDefinition) :
    modeItems? (jsonFormat.nestingLimit - (level + 2)) into (fields ++ rest)
        (items.map Node.ofJson) =
      some (fields.foldl (fun into f => f.copy m into) into) := by
  induction h generalizing into with
  | nil => rw [List.nil_append, List.map_nil, modeItems?, List.foldl_nil]
  | cons hv _ ih =>
    rw [List.cons_append, List.map_cons, modeItems?, ModeField.set?_of_spells hm hlevel into hv]
    exact ih _

theorem mode?_of_spells (hm : FitsRelevance m.relevance) (hlevel : level < 124) {v : Value}
    (h : SpellsMode level m v) : mode? jsonFormat level (.ofJson v) = some m := by
  cases h with
  | @object fields others members hfields hspells hdefault =>
    have hperm := hfields.perm_givenBy ModeField.ofText?_eq_some_iff
    have hread := modeFields?_of_spells hm hlevel members [] {}
      (fun g hg => hspells g (hperm.mem_iff.1 hg)) ((hperm.map _).nodup_iff.2 hfields.nodup)
      (fun f _ => List.not_mem_nil)
    have hall := ModeField.foldl_copy_eq fun f hf => hdefault f fun hmem =>
      hf ((hperm.map Prod.fst).mem_iff.2 hmem)
    rw [hall] at hread
    rw [ofJson_ofMembers, mode?]
    · exact hread
    · exact nofun
  | @list fields rest items hsplit hspells hdefault =>
    have hread := modeItems?_of_spells hm hlevel rest hspells {}
    have hall : fields.foldl (fun into f => f.copy m into) {} = m := by
      refine ModeField.foldl_copy_eq fun f hf => ?_
      have hmem : f ∈ fields ++ rest := by
        rw [← hsplit]
        cases f <;> decide
      exact hdefault f ((List.mem_append.1 hmem).resolve_left hf)
    rw [hall, ← hsplit] at hread
    rw [Node.ofJson, ofJsonItems_eq_map]
    exact hread

/-! ## Definitions -/

variable {d : GrammarDefinition}

theorem modes_of_spells {ms : List ModeDefinition} {items : List Value}
    (h : List.Forall₂ (SpellsMode level) ms items) (hlevel : level < 124)
    (hms : ∀ m ∈ ms, FitsRelevance m.relevance) :
    (items.map Node.ofJson).mapM (mode? jsonFormat level) = some ms := by
  induction h with
  | nil => rfl
  | cons hfirst _ ih =>
    obtain ⟨hm, hms⟩ := List.forall_mem_cons.1 hms
    rw [List.map_cons, List.mapM_cons, mode?_of_spells hm hlevel hfirst, ih hms]
    rfl

theorem Draft.set?_of_spells (hd : d.FitsRelevance) {draft : Draft} {f : Field} {v : Value}
    (hf : f ∉ draft.given) (h : f.Spells d v) :
    draft.set? jsonFormat (.ofJson v) f = some (draft.copy d f) := by
  obtain ⟨hdefault, hmodes⟩ := List.forall_mem_cons.1 hd
  have hgiven : ¬draft.given.contains f = true := by simpa using hf
  cases f with
  | defaultMode =>
    rw [Draft.set?, if_neg hgiven]
    simp only [mode?_of_spells hdefault (by decide) h]
    rfl
  | modes =>
    obtain ⟨items, rfl, hitems⟩ := h
    rw [Draft.set?, if_neg hgiven, Node.ofJson, ofJsonItems_eq_map]
    simp only [Node.items?, Option.bind_some, modes_of_spells hitems (by decide) hmodes]
    rfl
  | name | caseInsensitive | multiLine =>
    rw [show v = _ from h, Draft.set?, if_neg hgiven]
    rfl

/-- The members of an object give the fields of a definition that are known, in the order in which
they come. -/
theorem Draft.fields?_of_spells (hd : d.FitsRelevance) (members : List (String × Value))
    (draft : Draft) (hspells : ∀ g ∈ givenBy Field.ofText? members, g.1.Spells d g.2)
    (hnodup : ((givenBy Field.ofText? members).map Prod.fst).Nodup)
    (hgiven : ∀ f ∈ (givenBy Field.ofText? members).map Prod.fst, f ∉ draft.given)
    (hkept : ∀ member ∈ members, Field.ofText? member.1 = none →
      member.2.Keepable (jsonFormat.nestingLimit - 1)) :
    draft.fields? jsonFormat (members.map entryOf) =
      some (((givenBy Field.ofText? members).map Prod.fst).foldl (Draft.copy d) draft) := by
  induction members generalizing draft with
  | nil => rfl
  | cons member members ih =>
    obtain ⟨k, v⟩ := member
    obtain ⟨hv, hkept⟩ := List.forall_mem_cons.1 hkept
    rw [List.map_cons, entryOf, Draft.fields?]
    simp only [Node.text?, Scalar.ofText, Option.bind_eq_bind, Option.bind_some]
    cases hk : Field.ofText? k with
    | none =>
      rw [givenBy_cons_of_unknown hk] at hspells hnodup hgiven ⊢
      simp only [keepable_ofJson (hv hk), if_true]
      exact ih draft hspells hnodup hgiven hkept
    | some f =>
      rw [givenBy_cons_of_known hk] at hspells hnodup hgiven ⊢
      rw [List.map_cons] at hnodup hgiven ⊢
      obtain ⟨hv, hspells⟩ := List.forall_mem_cons.1 hspells
      have hfresh := fresh_of_nodup hnodup hgiven
      rw [← Draft.given_copy d] at hfresh
      simp only [Draft.set?_of_spells hd (hgiven f List.mem_cons_self) hv, Option.bind_some,
        List.foldl_cons]
      exact ih _ hspells (List.nodup_cons.1 hnodup).2 hfresh hkept

theorem definition?_of_spells (hd : d.FitsRelevance) {v : Value} (h : Spells d v) :
    definition? jsonFormat (.ofJson v) = some d := by
  obtain @⟨fields, others, members, hfields, hspells, hdefault, hkept⟩ := h
  have hperm := hfields.perm_givenBy Field.ofText?_eq_some_iff
  have hunknown : ∀ member ∈ members, Field.ofText? member.1 = none →
      member.2.Keepable (jsonFormat.nestingLimit - 1) := by
    intro member hmember hnone
    rcases List.mem_append.1 (hfields.perm.mem_iff.1 hmember) with hfield | hother
    · obtain ⟨g, -, rfl⟩ := List.mem_map.1 hfield
      rw [Field.ofText?_text] at hnone
      cases hnone
    · exact hkept member hother
  have hread := Draft.fields?_of_spells hd members {}
    (fun g hg => hspells g (hperm.mem_iff.1 hg)) ((hperm.map _).nodup_iff.2 hfields.nodup)
    (fun f _ => List.not_mem_nil) hunknown
  -- what has been read agrees with the definition in all fields
  have hagrees : ∀ f : Field, f.Agrees
      (((givenBy Field.ofText? members).map Prod.fst).foldl (Draft.copy d) {}) d := by
    intro f
    refine (foldl_of_copies (Draft.copy d) (fun draft f => f.Agrees draft d)
      (fun _ f g => Field.agrees_copy f g) _ {} f).2 ?_
    refine or_iff_not_imp_left.2 fun hf => ?_
    have hdefault := hdefault f fun hmem => hf ((hperm.map Prod.fst).mem_iff.2 hmem)
    cases f with
    | defaultMode => exact hdefault.elim
    | _ => exact (show _ = _ from hdefault).symm
  generalize ((givenBy Field.ofText? members).map Prod.fst).foldl (Draft.copy d) {} = draft
    at hread hagrees
  rw [ofJson_ofMembers]
  show (Draft.fields? jsonFormat {} (members.map entryOf)).bind _ = _
  rw [hread]
  exact definition_of_agrees hagrees

end Document

namespace GrammarDefinition

variable {d : GrammarDefinition} {v : Value}

/-- **All spellings of a definition are read as it.** A value spells a definition if it is an object
of its fields, in any order and with any others between them that are not known, where fields may be
left out that have their defaults. A mode is spelled alike, or as the list of its fields in their
order, those at its end being left out that have their defaults; and the words of a category are a
list, or the keys of an object with any values, and may be repeated. However such a value is
written, it is read as the definition, down to the order of its categories and words. The value that
is printed for the definition is one of them (`spells_toJson`). -/
theorem parseJson?_of_spells (hd : d.FitsRelevance) (h : Document.Spells d v) :
    (∀ source, Value.read? source = some v → parseJson? source = some d) ∧
      (v.Printable → parseJson? v.pretty = some d) := by
  have hdefinition : ofJson? v = some d := Document.definition?_of_spells hd h
  have htext : ∀ source, Value.read? source = some v → parseJson? source = some d := by
    intro source hsource
    rw [parseJson?, hsource]
    exact hdefinition
  exact ⟨htext, fun hprintable => htext _ (Value.read?_pretty hprintable)⟩

/-- A definition with many defaults, whose categories and words are not in alphabetical order. -/
def terse : GrammarDefinition where
  options := { caseInsensitive := true }
  defaultMode := (({} : ModeDefinition).withKeywords "k" ["b", "a"]).withKeywords "j" ["c"]
  modes := [.bounded "string" "'" "'"]

/-- The words of its categories, as keys of which one comes again, and as a list. -/
def terseCategories : List (String × Value) := [
  ("k", .ofMembers [("b", .ofInt 0), ("a", .ofMembers []), ("b", .null)]),
  ("j", .ofStrings ["c", "c"])]

/-- The fields of its default mode that are given, one of them with its default. -/
def terseMode : List (Document.ModeField × Value) :=
  [(.relevance, .ofInt 1), (.keywords, .ofMembers terseCategories)]

/-- The fields of the definition that are given, in another order, and its mode as a list. -/
def terseFields : List (Document.Field × Value) := [
  (.modes, .array [.ofStrings ["string", "'", "'"]]),
  (.defaultMode, .ofMembers (("y", .null) :: terseMode.map fun g => (g.1.text, g.2))),
  (.caseInsensitive, .bool true)]

/-- An object with these fields, and with one that is not known, like one of its default mode. -/
def terseValue : Value :=
  .ofMembers (("x", .array [.ofInt 2, .null]) :: terseFields.map fun g => (g.1.text, g.2))

theorem spells_terseValue : Document.Spells terse terseValue := by
  have hdefault : Document.SpellsMode 1 terse.defaultMode
      (.ofMembers (("y", .null) :: terseMode.map fun g => (g.1.text, g.2))) := by
    have hgives : Document.GivesFields Document.ModeField.text terseMode [("y", .null)] _ :=
      ⟨(List.perm_append_singleton ..).symm, by decide,
        List.forall_mem_singleton.2 fun f => by cases f <;> decide⟩
    refine .object hgives (List.forall_mem_cons.2 ⟨rfl, List.forall_mem_singleton.2 ?_⟩) ?_
    · refine ⟨_, rfl, .cons ⟨rfl, .object (by decide) ?_⟩ (.cons ⟨rfl, .list (by decide)⟩ .nil)⟩
      simp only [List.forall_mem_cons]
      exact ⟨.number (by decide), .object nofun, .null _, nofun⟩
    · intro f hf
      cases f <;> first | rfl | exact (hf (by decide)).elim
  have hlist : Document.SpellsMode 2 (.bounded "string" "'" "'")
      (.ofStrings ["string", "'", "'"]) := by
    refine .list (List.take_append_drop 3 _).symm (.cons rfl (.cons rfl (.cons rfl .nil))) ?_
    intro f hf
    cases f <;> first | rfl | exact absurd hf (by decide)
  have hgives : Document.GivesFields Document.Field.text terseFields
      [("x", .array [.ofInt 2, .null])] _ :=
    ⟨(List.perm_append_singleton ..).symm, by decide,
      List.forall_mem_singleton.2 fun f => by cases f <;> decide⟩
  refine .object hgives ?_ ?_ (List.forall_mem_singleton.2 (.array ?_))
  · simp only [terseFields, List.forall_mem_cons]
    exact ⟨⟨_, rfl, .cons hlist .nil⟩, hdefault, rfl, nofun⟩
  · intro f hf
    cases f <;> first | rfl | exact (hf (by decide)).elim
  · exact List.forall_mem_cons.2 ⟨.number (by decide), List.forall_mem_singleton.2 (.null _)⟩

theorem printable_terseValue : terseValue.Printable := by
  have hcategories : (Value.ofMembers terseCategories).Printable := by
    refine printable_ofMembers ?_
    simp only [terseCategories, List.forall_mem_cons]
    refine ⟨printable_ofMembers ?_, printable_ofStrings _, nofun⟩
    simp only [List.forall_mem_cons]
    exact ⟨.int 0, printable_ofMembers nofun, .null, nofun⟩
  refine printable_ofMembers ?_
  simp only [terseFields, terseMode, List.map_cons, List.map_nil, List.forall_mem_cons]
  refine ⟨.array ?_, .array (List.forall_mem_singleton.2 (printable_ofStrings _)),
    printable_ofMembers ?_, .bool true, nofun⟩
  · simp only [List.forall_mem_cons]
    exact ⟨.int 2, .null, nofun⟩
  · simp only [List.forall_mem_cons]
    exact ⟨.null, .int 1, hcategories, nofun⟩

/-- Fields in another order, with others between them and some left out, a mode as a list, and words
that are keys or that are repeated. -/
theorem parseJson?_of_spells_terse :
    terse.FitsRelevance ∧ Document.Spells terse terseValue ∧ terseValue.Printable ∧
      parseJson? terseValue.pretty = some terse := by
  have hfits : terse.FitsRelevance := by decide
  have hread := (parseJson?_of_spells hfits spells_terseValue).2 printable_terseValue
  exact ⟨hfits, spells_terseValue, printable_terseValue, hread⟩

end GrammarDefinition

end Tint
