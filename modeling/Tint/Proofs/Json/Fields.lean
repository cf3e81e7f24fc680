import Tint.Document.Encoding
import Tint.Proofs.Json.Reading

/-!
# Fields of definitions in JSON

What a definition and its modes are written as in JSON, field by field, and what it is to take over
a field from them. Values are read as documents, so first it is said what documents they are.

**Agreement (`foldl_of_copies`).** To take over a field makes two modes agree in it, and leaves them
as they were in the others. So when fields are taken over one after the other it does not matter in
what order, and a mode that agrees in all fields is the same (`ModeField.eq_of_agrees`); alike for
definitions (`definition_of_agrees`).
-/

namespace Tint

open Json (Value)

/-! ## Values -/

namespace Json.Value

theorem printable_ofStrings (l : List String) : (ofStrings l).Printable := by
  refine .array ?_
  intro v hv
  obtain ⟨s, -, rfl⟩ := List.mem_map.1 hv
  exact .string s

theorem printable_ofString? (s : Option String) : (ofString? s).Printable := by
  cases s with
  | none => exact .null
  | some s => exact .string s

theorem printable_ofMembers {members : List (String × Value)} (h : ∀ m ∈ members, m.2.Printable) :
    (ofMembers members).Printable := by
  refine .object ?_ ?_
  · intro m hm
    obtain ⟨n, -, rfl⟩ := List.mem_map.1 hm
    rfl
  · intro m hm
    obtain ⟨n, hn, rfl⟩ := List.mem_map.1 hm
    exact h n hn

end Json.Value

open Json.Value

namespace Document

theorem ofJsonItems_eq_map (vs : List Value) : Node.ofJsonItems vs = vs.map Node.ofJson := by
  induction vs with
  | nil => rfl
  | cons v vs ih => rw [Node.ofJsonItems, ih, List.map_cons]

theorem ofJsonMembers_eq_map (ms : List (Option String × Value)) :
    Node.ofJsonMembers ms = ms.map fun m => (.scalar (.ofText m.1), Node.ofJson m.2) := by
  induction ms with
  | nil => rfl
  | cons m ms ih => rw [Node.ofJsonMembers, ih, List.map_cons]

/-- The entry of a member. -/
def entryOf (m : String × Value) : Node × Node := (.scalar (.ofText (some m.1)), .ofJson m.2)

theorem ofJson_ofMembers (members : List (String × Value)) :
    .ofJson (ofMembers members) = Node.mapping (members.map entryOf) := by
  rw [ofMembers, Node.ofJson, ofJsonMembers_eq_map, List.map_map]
  rfl

/-- The node of a text. -/
def textNode (s : String) : Node := .scalar (.ofText (some s))

theorem ofJson_ofStrings (l : List String) :
    .ofJson (ofStrings l) = Node.list (l.map textNode) := by
  rw [ofStrings, Node.ofJson, ofJsonItems_eq_map, List.map_map]
  rfl

theorem mapM_map_eq_some {α β : Type} {write : α → β} {read : β → Option α} {as : List α}
    (h : ∀ a ∈ as, read (write a) = some a) : (as.map write).mapM read = some as := by
  induction as with
  | nil => rfl
  | cons a as ih =>
    obtain ⟨ha, has⟩ := List.forall_mem_cons.1 h
    rw [List.map_cons, List.mapM_cons, ha, ih has]
    rfl

theorem texts?_ofStrings (l : List String) : texts? (.ofJson (ofStrings l)) = some l := by
  rw [ofJson_ofStrings]
  exact mapM_map_eq_some fun s _ => rfl

theorem optionalText?_ofString? (s : Option String) :
    optionalText? (.ofJson (ofString? s)) = some s := by
  cases s <;> rfl

/-- The relevance is an integer of 32 bits. -/
def FitsRelevance (i : Int) : Prop := minRelevance ≤ i ∧ i ≤ maxRelevance

instance (i : Int) : Decidable (FitsRelevance i) := inferInstanceAs (Decidable (_ ∧ _))

theorem relevance?_ofInt {i : Int} (h : FitsRelevance i) :
    relevance? (.ofJson (.ofInt i)) = some i := by
  show (Json.Number.ofInt i).int?.bind _ = _
  have hfits : (minRelevance ≤ i && i ≤ maxRelevance) = true := by
    simpa using And.intro h.1 h.2
  rw [Json.int?_ofInt, Option.bind_some, if_pos hfits]

theorem allKeepable_map_textNode (depth : Nat) (l : List String) :
    Node.allKeepable depth (l.map textNode) = true := by
  induction l with
  | nil => rfl
  | cons s l ih =>
    rw [List.map_cons, Node.allKeepable, ih]
    rfl

/-! ## Fields in general -/

theorem fresh_of_nodup {α : Type} {f : α} {fs given : List α} (hnodup : (f :: fs).Nodup)
    (hgiven : ∀ g ∈ f :: fs, g ∉ given) : ∀ g ∈ fs, g ∉ f :: given := by
  intro g hg hmem
  rcases List.mem_cons.1 hmem with rfl | hmem
  · exact (List.nodup_cons.1 hnodup).1 hg
  · exact hgiven g (List.mem_cons_of_mem _ hg) hmem

/-- What holds of the field that is taken over, and of those that it held of before, holds of all
fields that are taken over one after the other. -/
theorem foldl_of_copies {F S : Type} (copy : S → F → S) (Agrees : S → F → Prop)
    (h : ∀ s f g, Agrees (copy s g) f ↔ f = g ∨ Agrees s f) (fields : List F) (s : S) (f : F) :
    Agrees (fields.foldl copy s) f ↔ f ∈ fields ∨ Agrees s f := by
  induction fields generalizing s with
  | nil => simp
  | cons g gs ih =>
    rw [List.foldl_cons, ih, h, List.mem_cons]
    tauto

/-! ## Modes -/

/-- The value of a field of a mode. -/
def ModeField.value (m : ModeDefinition) : ModeField → Value
  | className => .ofString m.className
  | opener => .ofString? m.beginSource
  | closer => .ofString? m.endSource
  | illegal => .ofString? m.illegalSource
  | contains => .ofStrings m.contains
  | keywords => m.keywords.toJson
  | lexems => .ofStrings m.lexems
  | relevance => .ofInt m.relevance

/-- Take over a field of a mode. -/
def ModeField.copy (m into : ModeDefinition) : ModeField → ModeDefinition
  | className => { into with className := m.className }
  | opener => { into with beginSource := m.beginSource }
  | closer => { into with endSource := m.endSource }
  | illegal => { into with illegalSource := m.illegalSource }
  | contains => { into with contains := m.contains }
  | keywords => { into with keywords := m.keywords }
  | lexems => { into with lexems := m.lexems }
  | relevance => { into with relevance := m.relevance }

theorem toJson_eq_ofMembers (m : ModeDefinition) :
    m.toJson = .ofMembers (ModeField.all.map fun f => (f.text, f.value m)) := rfl

theorem ModeField.ofText?_text (f : ModeField) : ofText? f.text = some f := by
  cases f <;> decide

theorem ModeField.ofText?_eq_some_iff (name : String) (f : ModeField) :
    ofText? name = some f ↔ f.text = name := by
  constructor
  · intro h
    simpa using List.find?_some h
  · rintro rfl
    exact ofText?_text f

/-- Two modes agree in a field. -/
def ModeField.Agrees (a b : ModeDefinition) : ModeField → Prop
  | className => a.className = b.className
  | opener => a.beginSource = b.beginSource
  | closer => a.endSource = b.endSource
  | illegal => a.illegalSource = b.illegalSource
  | contains => a.contains = b.contains
  | keywords => a.keywords = b.keywords
  | lexems => a.lexems = b.lexems
  | relevance => a.relevance = b.relevance

theorem ModeField.eq_of_agrees {a b : ModeDefinition} (h : ∀ f : ModeField, f.Agrees a b) :
    a = b := by
  cases a
  cases b
  rw [ModeDefinition.mk.injEq]
  exact ⟨h className, h opener, h closer, h illegal, h contains, h keywords, h lexems, h relevance⟩

/-- A mode agrees in the field that is taken over, and in those that it agreed in before. -/
theorem ModeField.agrees_copy {m into : ModeDefinition} (f g : ModeField) :
    f.Agrees (g.copy m into) m ↔ f = g ∨ f.Agrees into m := by
  cases f <;> cases g <;> simp [Agrees, copy]

/-! ## Definitions -/

/-- The value of a field of a definition. -/
def Field.value (d : GrammarDefinition) : Field → Value
  | name => .ofString d.name
  | caseInsensitive => .bool d.options.caseInsensitive
  | multiLine => .bool d.options.multiLine
  | defaultMode => d.defaultMode.toJson
  | modes => .array (d.modes.map ModeDefinition.toJson)

/-- All fields of a definition, in the order in which they are printed. -/
def Field.all : List Field := [name, caseInsensitive, multiLine, defaultMode, modes]

/-- Take over a field of a definition. -/
def Draft.copy (d : GrammarDefinition) (draft : Draft) (f : Field) : Draft :=
  let draft := { draft with given := f :: draft.given }
  match f with
  | .name => { draft with name := d.name }
  | .caseInsensitive =>
    { draft with options := { draft.options with caseInsensitive := d.options.caseInsensitive } }
  | .multiLine => { draft with options := { draft.options with multiLine := d.options.multiLine } }
  | .defaultMode => { draft with defaultMode := some d.defaultMode }
  | .modes => { draft with modes := d.modes }

theorem Draft.given_copy (d : GrammarDefinition) (draft : Draft) (f : Field) :
    (draft.copy d f).given = f :: draft.given := by
  cases f <;> rfl

theorem definition_toJson_eq_ofMembers (d : GrammarDefinition) :
    d.toJson = .ofMembers (Field.all.map fun f => (f.text, f.value d)) := rfl

theorem Field.ofText?_text (f : Field) : ofText? f.text = some f := by
  cases f <;> decide

theorem Field.ofText?_eq_some_iff (name : String) (f : Field) :
    ofText? name = some f ↔ f.text = name := by
  constructor
  · intro h
    simpa using List.find?_some h
  · rintro rfl
    exact ofText?_text f

/-- What has been read agrees with a definition in a field. -/
def Field.Agrees (draft : Draft) (d : GrammarDefinition) : Field → Prop
  | name => draft.name = d.name
  | caseInsensitive => draft.options.caseInsensitive = d.options.caseInsensitive
  | multiLine => draft.options.multiLine = d.options.multiLine
  | defaultMode => draft.defaultMode = some d.defaultMode
  | modes => draft.modes = d.modes

theorem Field.agrees_copy {d : GrammarDefinition} {draft : Draft} (f g : Field) :
    f.Agrees (draft.copy d g) d ↔ f = g ∨ f.Agrees draft d := by
  cases f <;> cases g <;> simp [Agrees, Draft.copy]

/-- What has been read is the definition that it agrees with in all fields. -/
theorem definition_of_agrees {d : GrammarDefinition} {draft : Draft}
    (h : ∀ f : Field, f.Agrees draft d) :
    (do
      let defaultMode ← draft.defaultMode
      return { name := draft.name, options := draft.options, defaultMode, modes := draft.modes }) =
      some d := by
  obtain ⟨name, ⟨caseInsensitive, multiLine⟩, defaultMode, modes, given⟩ := draft
  obtain ⟨name', ⟨caseInsensitive', multiLine'⟩, defaultMode', modes'⟩ := d
  obtain rfl : name = name' := h .name
  obtain rfl : caseInsensitive = caseInsensitive' := h .caseInsensitive
  obtain rfl : multiLine = multiLine' := h .multiLine
  obtain rfl : defaultMode = some defaultMode' := h .defaultMode
  obtain rfl : modes = modes' := h .modes
  rfl

end Document

/-- The relevance of every mode is an integer of 32 bits. -/
def GrammarDefinition.FitsRelevance (d : GrammarDefinition) : Prop :=
  ∀ m ∈ d.defaultMode :: d.modes, Document.FitsRelevance m.relevance

instance (d : GrammarDefinition) : Decidable d.FitsRelevance :=
  inferInstanceAs (Decidable (∀ m ∈ d.defaultMode :: d.modes, Document.FitsRelevance m.relevance))

end Tint
