import Tint.Lexer.Run

/-!
# Detecting the language of a text

Every grammar reads the text on its own. Its score is the relevance of what it has read, so it
counts the modes that were opened and not how much text they hold; a grammar that cannot read the
text to its end scores nothing. The language is the first one with the highest score.
-/

namespace Tint

/-- How well a grammar fits a text, and why it could not read it. -/
structure LanguageScore where
  language : String
  relevance : Int
  error : Option LexError := none
deriving DecidableEq, Repr

/-- The language of a text, its score, and the scores of all candidates in order. -/
structure Detection where
  language : String
  relevance : Int
  scores : List LanguageScore
deriving DecidableEq, Repr

/-- How well a grammar fits a text. -/
def Grammar.score (g : Grammar) (text : String) (options : LexOptions) : LanguageScore :=
  match g.lex text options with
  | .ok out => { language := g.name, relevance := out.relevance }
  | .error e => { language := g.name, relevance := 0, error := some e }

namespace Detection

/-- The first of the highest scores, of which `best` is the first so far. -/
def highest (best : LanguageScore) (scores : List LanguageScore) : LanguageScore :=
  scores.foldl (fun best s => if best.relevance < s.relevance then s else best) best

/-- What scores say. -/
def ofScores : List LanguageScore → Except LexError Detection
  | [] => .error .noGrammars
  | first :: rest =>
    let best := highest first rest
    .ok { language := best.language, relevance := best.relevance, scores := first :: rest }

end Detection

/-- The language of a text among those of some grammars. -/
def detect (text : String) (grammars : List Grammar) (options : LexOptions) :
    Except LexError Detection :=
  Detection.ofScores (grammars.map fun g => g.score text options)

end Tint
