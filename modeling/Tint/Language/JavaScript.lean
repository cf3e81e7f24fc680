import Tint.Grammar.Definition

/-!
# JavaScript

The grammar of JavaScript. Numbers, operators, punctuation and escapes are modes that close where
they have been opened. Functions are modes of their own with their name and parameters inside, and
weigh more than anything else when a language is detected.
-/

namespace Tint.Language.JavaScript

/-- The name of the grammar. -/
def name : String := "javascript"

def keywords : List String :=
  ["for", "in", "while", "do", "break", "return", "continue", "if", "else", "throw", "try",
    "catch", "var", "with", "const", "label", "function", "new", "typeof", "instanceof"]

def constants : List String := ["true", "false", "null", "NaN", "Infinity", "undefined"]

def builtins : List String :=
  ["Array", "Boolean", "Date", "Error", "Function", "Math", "netscape", "Number", "Object",
    "Packages", "RegExp", "String", "sun", "decodeURI", "decodeURIComponent", "encodeURI",
    "encodeURIComponent", "eval", "isFinite", "isNaN", "parseFloat", "parseInt", "document",
    "window"]

/-- An identifier, which may start with an underscore. -/
def identifier : String := "[a-zA-Z_][a-zA-Z0-9_]*"

/-- What may open where no other mode is open. -/
def toplevel : List String :=
  ["comment single", "comment multiline", "number integer", "number oct", "number hex",
    "number float", "string single", "string double", "string regex", "operator", "punctuation",
    "_function"]

def defaultMode : ModeDefinition :=
  ((((({} : ModeDefinition).cutting ["\\b[a-zA-Z]+"]).withKeywords "keyword" keywords).withKeywords
    "keyword constant" constants).withKeywords "name builtin" builtins).withKeywords
    "name builtin pseudo" ["this"] |>.containing toplevel

/-- A mode that closes where it has been opened. -/
def token (className opener : String) : ModeDefinition := .bounded className opener "^"

/-- A string on one line between two quotation marks. -/
def quoted (className quote : String) : ModeDefinition :=
  (((ModeDefinition.bounded className quote quote).forbidding "\\n").containing
    ["string escape"]).weighing 0

/-- A brace that opens a block, as a pattern. -/
def openingBrace : String := String.ofList ['\\', '\x7b']

/-- Brackets, points and semicolons. -/
def punctuation : String :=
  String.ofList ['[', '\x7b', '\x7d'] ++ "\\(\\)\\[\\]\\.;]"

/-- Numbers with a point or an exponent. -/
def float : String :=
  "([1-9][0-9]*\\.[0-9]*([eE][\\+-]?[0-9]+)?)|(\\.[0-9]+([eE][\\+-]?[0-9]+)?)|" ++
    "([0-9]+[eE][\\+-]?[0-9]+)"

def modes : List ModeDefinition := [
  (ModeDefinition.bounded "comment single" "//" "$").weighing 0,
  .bounded "comment multiline" "/\\*" "\\*/",
  (token "number integer" "0|([1-9][0-9]*)").weighing 0,
  (token "number oct" "0[0-9]+").weighing 0,
  (token "number hex" "0x[0-9a-fA-F]+").weighing 0,
  (token "number float" float).weighing 0,
  quoted "string single" "'",
  quoted "string double" "\"",
  (token "string escape" "\\\\.").weighing 0,
  token "string regex" "/.*?[^\\\\/]/[gim]*",
  (token "operator" "\\|\\||&&|\\+\\+|--|-=|\\+=|/=|\\*=|==|[-\\+\\*/=\\?:~\\^]").weighing 0,
  (token "punctuation" punctuation).weighing 0,
  (((ModeDefinition.bounded "_function" "function\\b" openingBrace).cutting
    [identifier]).withKeywords "keyword" ["function"]).containing ["name function", "_params"]
    |>.weighing 5,
  token "name function" identifier,
  (ModeDefinition.bounded "_params" "\\(" "\\)").containing
    ["comment single", "comment multiline"]]

/-- The grammar of JavaScript. -/
def definition : GrammarDefinition := { name, defaultMode, modes }

end Tint.Language.JavaScript
