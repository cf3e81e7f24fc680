import Tint.CharSet

/-!
# Regular expressions as written

An expression keeps what its author wrote: flags, groups, classes with their operators. What it
means is settled by `Tint.Regex.Meaning`. The depth of an expression bounds how deeply it may be
nested.
-/

namespace Tint.Regex

/-- The flags that a pattern may set. -/
inductive Flag where
  | ignoreCase
  | multiLine
  | dotAll
  | swapGreed
  | unicode
  | anyLineBreak
  | ignoreBlanks
deriving DecidableEq, Repr

/-- Flags that are set and cleared together. -/
structure FlagChange where
  on : List Flag := []
  off : List Flag := []
deriving DecidableEq, Repr

/-- The value that a change gives to a flag, if it changes it. -/
def FlagChange.get? (change : FlagChange) (f : Flag) : Option Bool :=
  if change.on.contains f then some true else if change.off.contains f then some false else none

/-- The classes with one-letter escapes. -/
inductive Shorthand where
  | digit
  | blank
  | word
deriving DecidableEq, Repr

/-- A property of characters: a name, or a name and a value. -/
inductive PropertyName where
  | simple (name : String)
  | valued (name value : String)
deriving DecidableEq, Repr

/-- The operators between the operands of a class. -/
inductive ClassOp where
  | inter
  | diff
  | symmDiff
deriving DecidableEq, Repr

/-- What may stand in brackets. A character says whether it was written as a two-digit code. -/
inductive ClassExpr where
  | char (c : Char) (coded : Bool)
  | range (lo hi : Char) (loCoded hiCoded : Bool)
  | ascii (set : CharSet) (negated : Bool)
  | shorthand (kind : Shorthand) (negated : Bool)
  | property (name : PropertyName) (negated : Bool)
  | bracketed (negated : Bool) (body : ClassExpr)
  | union (items : List ClassExpr)
  | operation (op : ClassOp) (left right : ClassExpr)

/-- The assertions as written; the flags in force say which lines and words they mean. -/
inductive Assertion where
  | lineStart
  | lineEnd
  | textStart
  | textEnd
  | wordBoundary
  | notWordBoundary
  | wordStart
  | wordEnd
  | wordStartHalf
  | wordEndHalf
deriving DecidableEq, Repr

/-- An expression as written. -/
inductive Expr where
  | empty
  | setFlags (change : FlagChange)
  | char (c : Char) (coded : Bool)
  | dot
  | assertion (a : Assertion)
  | shorthand (kind : Shorthand) (negated : Bool)
  | property (name : PropertyName) (negated : Bool)
  | bracketed (negated : Bool) (body : ClassExpr)
  | repeated (min : Nat) (max : Option Nat) (greedy : Bool) (body : Expr)
  | capture (index : Nat) (body : Expr)
  | group (change : FlagChange) (body : Expr)
  | concat (items : List Expr)
  | alternation (items : List Expr)

/-! ## Nesting -/

mutual

/-- How deeply the operands of a class are nested. -/
def ClassExpr.depth : ClassExpr → Nat
  | .bracketed _ body => body.depth + 1
  | .union [] => 0
  | .union items => ClassExpr.depthAll items + 1
  | .operation _ l r => max l.depth r.depth + 1
  | _ => 0

def ClassExpr.depthAll : List ClassExpr → Nat
  | [] => 0
  | e :: es => max e.depth (ClassExpr.depthAll es)

end

mutual

/-- How deeply an expression is nested; characters, assertions and escapes add nothing. -/
def Expr.depth : Expr → Nat
  | .bracketed _ body => body.depth + 1
  | .repeated _ _ _ body => body.depth + 1
  | .capture _ body => body.depth + 1
  | .group _ body => body.depth + 1
  | .concat items => Expr.depthAll items + 1
  | .alternation items => Expr.depthAll items + 1
  | _ => 0

def Expr.depthAll : List Expr → Nat
  | [] => 0
  | e :: es => max e.depth (Expr.depthAll es)

end

/-- The deepest nesting that a pattern may have. -/
def nestLimit : Nat := 250

/-! ## Lists of one -/

/-- A sequence; a sequence of one is that one. -/
def Expr.ofSequence : List Expr → Expr
  | [] => .empty
  | [e] => e
  | es => .concat es

/-- Alternatives; a single alternative is itself. -/
def Expr.ofAlternatives : List Expr → Expr
  | [] => .empty
  | [e] => e
  | es => .alternation es

/-- Items side by side; a single item is itself. -/
def ClassExpr.ofItems : List ClassExpr → ClassExpr
  | [e] => e
  | es => .union es

end Tint.Regex
