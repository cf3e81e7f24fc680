import Tint.Grammar.Compiled
import Tint.Span

/-!
# Classification

The own text of a mode is cut into words by the lexems of the mode. A word that is a keyword
becomes a span with its category as class, and what lies between keywords becomes spans with the
class of the mode. A word is the first place where a lexem matches, and of several lexems that
match there the first one's; a lexem whose match is empty is passed over.

What a mode's own text becomes depends on that text alone, not on what surrounds it.
-/

namespace Tint

/-- What the lexems find in a text: the first match that is not empty, and the place of the first
one that is. -/
structure Survey where
  word : Option Found := none
  empty : Option Nat := none

namespace Survey

/-- Note what one lexem finds. An earlier word wins, and the earlier lexem if both start alike. -/
def note (s : Survey) : Option Found → Survey
  | none => s
  | some f =>
    if f.start < f.stop then
      match s.word with
      | some w => if f.start < w.start then { s with word := some f } else s
      | none => { s with word := some f }
    else { s with empty := some ((s.empty.map (Nat.min · f.start)).getD f.start) }

/-- What all lexems find. -/
def ofLexems (lexems : List Pattern) (text : List Char) : Survey :=
  lexems.foldl (fun s p => s.note (p.find text 0)) {}

end Survey

/-- A text cut around its first word. -/
structure Cut where
  before : List Char
  word : List Char
  after : List Char

namespace Cut

/-- Cut a text around its first word, given what has been passed over before it. Where lexems
find empty matches only, the search goes on one character behind the first of them. -/
def find? (lexems : List Pattern) : (budget : Nat) → (passed : List Char) → List Char → Option Cut
  | 0, _, _ => none
  | _, _, [] => none
  | budget + 1, passed, c :: cs =>
    let survey := Survey.ofLexems lexems (c :: cs)
    match survey.word, survey.empty with
    | some w, _ =>
      let (before, rest) := Text.splitAt (c :: cs) w.start
      let (word, after) := Text.splitAt rest (w.stop - w.start)
      some { before := passed ++ before, word, after }
    | none, some place =>
      match Text.splitAt (c :: cs) place with
      | (before, x :: rest) => find? lexems budget (passed ++ before ++ [x]) rest
      | (_, []) => none
    | none, none => none

/-- Cut a text around its first word. -/
def ofText? (lexems : List Pattern) (text : List Char) : Option Cut :=
  find? lexems (text.length + 1) [] text

end Cut

namespace Mode

/-- The span of a stretch of text, if it is not empty. -/
def stretch (className : String) (text : List Char) (offset : Nat) : List Span :=
  if text.isEmpty then [] else [{ className, text := String.ofList text, offset }]

/-- The spans of a text that starts at `offset`; `plain` is the text before it that is no keyword
and has not become a span yet. -/
def classifyFrom (m : Mode) : (budget : Nat) → (plain : List Char) → (text : List Char) →
    (offset : Nat) → List Span
  | 0, plain, text, offset => stretch m.className (plain ++ text) (offset - Text.size plain)
  | budget + 1, plain, text, offset =>
    match Cut.ofText? m.lexems text with
    | none => stretch m.className (plain ++ text) (offset - Text.size plain)
    | some cut =>
      let start := offset + Text.size cut.before
      let stop := start + Text.size cut.word
      match m.keywords.category? (String.ofList cut.word) with
      | some category =>
        stretch m.className (plain ++ cut.before) (offset - Text.size plain) ++
          { className := category, text := String.ofList cut.word, offset := start } ::
          classifyFrom m budget [] cut.after stop
      | none => classifyFrom m budget (plain ++ cut.before ++ cut.word) cut.after stop

/-- The spans of a mode's own text, which starts at `offset`. -/
def classify (m : Mode) (own : List Char) (offset : Nat) : List Span :=
  if m.keywords.isEmpty then stretch m.className own offset
  else m.classifyFrom (own.length + 1) [] own offset

/-- The spans of the stretch of a text between two places, as own text of a mode; nothing if a
place lies inside a character or past the end. An empty stretch has no spans. -/
def classifyBetween? (m : Mode) (text : List Char) (start stop : Nat) : Option (List Span) :=
  if start < stop then (Text.slice? text start stop).map fun own => m.classify own start
  else some []

end Mode

end Tint
