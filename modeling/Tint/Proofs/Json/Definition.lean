import Tint.Proofs.Json.Spelling

/-!
# Definitions survive JSON

A definition is printed with all its fields, each once and in the order of the format. Of such a
value nothing is lost when it is printed (`printable_definition`), and it is one of the spellings of
the definition (`spells_toJson`).

**Theorem (`parseJson?_render`).** The printed form of a definition is read as that definition, down
to the order of its categories and words. A relevance has to be an integer of 32 bits, since no
other is read.
-/

namespace Tint

open Json (Value)
open Json.Value

namespace Document

theorem printable_keywords (k : Keywords) : k.toJson.Printable := by
  refine printable_ofMembers ?_
  intro m hm
  obtain ⟨e, -, rfl⟩ := List.mem_map.1 hm
  exact printable_ofStrings _

theorem printable_mode (m : ModeDefinition) : m.toJson.Printable := by
  rw [toJson_eq_ofMembers]
  refine printable_ofMembers (List.forall_mem_map.2 ?_)
  intro f _
  cases f with
  | className => exact .string _
  | opener => exact printable_ofString? _
  | closer => exact printable_ofString? _
  | illegal => exact printable_ofString? _
  | contains => exact printable_ofStrings _
  | keywords => exact printable_keywords _
  | lexems => exact printable_ofStrings _
  | relevance => exact .int _

theorem printable_definition (d : GrammarDefinition) : d.toJson.Printable := by
  rw [definition_toJson_eq_ofMembers]
  refine printable_ofMembers (List.forall_mem_map.2 ?_)
  intro f _
  cases f with
  | name => exact .string _
  | caseInsensitive => exact .bool _
  | multiLine => exact .bool _
  | defaultMode => exact printable_mode _
  | modes => exact .array (List.forall_mem_map.2 fun m _ => printable_mode m)

theorem definition?_toJson {d : GrammarDefinition} (hd : d.FitsRelevance) :
    definition? jsonFormat (.ofJson d.toJson) = some d :=
  definition?_of_spells hd (spells_toJson d)

end Document

namespace GrammarDefinition

/-- **A definition survives JSON.** Whatever its texts are, whichever fields it gives, and in
whatever order it has its categories and their words, its printed form is read as the same
definition. -/
theorem parseJson?_render {d : GrammarDefinition} (hd : d.FitsRelevance) :
    parseJson? d.render = some d := by
  rw [parseJson?, render, Value.read?_pretty (Document.printable_definition d), Option.bind_some]
  exact Document.definition?_toJson hd

/-- A definition with texts that are escaped, categories and words that are not in alphabetical
order, a category without words, and the relevance at both ends of its range. -/
def motley : GrammarDefinition where
  name := "a \"name\"\n\x00\x7f\\ é𝄞"
  options := { caseInsensitive := true, multiLine := false }
  defaultMode :=
    (((({} : ModeDefinition).withKeywords "z" ["y", "x"]).withKeywords "empty" []).withKeywords "a"
      ["\t"]).weighing Document.minRelevance
  modes := [(((ModeDefinition.bounded "" "" "\\b").forbidding "\r").containing
    ["", "$default"]).weighing Document.maxRelevance, {}]

/-- The same definition with its categories in another order. -/
def disordered : GrammarDefinition :=
  { motley with
    defaultMode :=
      (((({} : ModeDefinition).withKeywords "a" ["\t"]).withKeywords "empty" []).withKeywords "z"
        ["y", "x"]).weighing Document.minRelevance }

/-- The order of the categories is not lost. -/
theorem parseJson?_render_motley :
    motley.FitsRelevance ∧ parseJson? motley.render = some motley ∧
      disordered.FitsRelevance ∧ parseJson? disordered.render = some disordered ∧
      motley ≠ disordered := by
  have hmotley : motley.FitsRelevance := by decide
  have hdisordered : disordered.FitsRelevance := by decide
  exact ⟨hmotley, parseJson?_render hmotley, hdisordered, parseJson?_render hdisordered, by decide⟩

end GrammarDefinition

end Tint
