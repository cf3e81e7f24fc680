import Tint.Detection
import Tint.Language.JavaScript
import Tint.Registry

/-!
# Highlighters

A highlighter is a registry of grammars with the options that every text is read with.
-/

namespace Tint

/-- The grammars that come with the library. -/
def bundled : List GrammarDefinition := [Language.JavaScript.definition]

/-- Grammars, and how to read with them. -/
structure Highlighter where
  registry : Registry := .empty
  options : LexOptions := {}

namespace Highlighter

/-- A highlighter without grammars. -/
def empty : Highlighter := {}

/-- Register a grammar under a name. -/
def registerAs (h : Highlighter) (name : String) (d : GrammarDefinition) :
    Except ConfigError Highlighter :=
  (h.registry.registerAs name d).map fun registry => { h with registry }

/-- Register a grammar under its own name. -/
def register (h : Highlighter) (d : GrammarDefinition) : Except ConfigError Highlighter :=
  h.registerAs d.name d

/-- A highlighter with the grammars that come with the library. -/
def withBundled : Except ConfigError Highlighter := bundled.foldlM register empty

/-- Read a text with the grammar of a language. -/
def lex (h : Highlighter) (text language : String) : Except LexError LexOutput :=
  match h.registry.get? language with
  | some g => g.lex text h.options
  | none => .error (.unknownLanguage language)

/-- The spans of a text. -/
def highlight (h : Highlighter) (text language : String) : Except LexError (List Span) :=
  (h.lex text language).map (·.spans)

/-- The language of a text among some languages, or all if none is named. -/
def detect (h : Highlighter) (text : String) (languages : List String) :
    Except LexError Detection := do
  Tint.detect text (← h.registry.select languages) h.options

/-- The name of the language of a text. -/
def detectLanguage (h : Highlighter) (text : String) (languages : List String) :
    Except LexError String :=
  (h.detect text languages).map (·.language)

end Highlighter

end Tint
