import Tint.Regex.Expr
import Tint.Regex.Term
import Tint.Unicode.Age
import Tint.Unicode.Blank
import Tint.Unicode.Boundary
import Tint.Unicode.CaseChange
import Tint.Unicode.Digit
import Tint.Unicode.Folding
import Tint.Unicode.Property
import Tint.Unicode.Script
import Tint.Unicode.ScriptExtension
import Tint.Unicode.Word

/-!
# What a regular expression means

`Expr.meaning?` gives the term of an expression under flags. A change of flags holds from where it
stands to the end of its group. Where case is ignored, every set of characters is taken with all
characters that are equal up to case, before it is negated and before it meets an operator; so it
is closed under a change of case.

An expression may lack a meaning: a property may be unknown, and without the flag for characters
of all scripts a set must stay among the first 128 characters.
-/

namespace Tint.Regex

/-- The flags in force. -/
structure Flags where
  ignoreCase : Bool := false
  multiLine : Bool := false
  dotAll : Bool := false
  swapGreed : Bool := false
  unicode : Bool := true
  anyLineBreak : Bool := false
deriving DecidableEq, Repr

namespace Flags

/-- The flags after a change. -/
def update (flags : Flags) (change : FlagChange) : Flags where
  ignoreCase := (change.get? .ignoreCase).getD flags.ignoreCase
  multiLine := (change.get? .multiLine).getD flags.multiLine
  dotAll := (change.get? .dotAll).getD flags.dotAll
  swapGreed := (change.get? .swapGreed).getD flags.swapGreed
  unicode := (change.get? .unicode).getD flags.unicode
  anyLineBreak := (change.get? .anyLineBreak).getD flags.anyLineBreak

/-- The first 128 characters. -/
def ascii : CharSet := .ofBounds [0, 128]

/-- The ASCII letters in `s`, each with its other case. -/
def foldAscii (s : CharSet) : CharSet := s.union (s.caseFold.inter ascii)

/-- The set under the flags: with its other cases where case is ignored. -/
def fold (flags : Flags) (s : CharSet) : CharSet :=
  if flags.ignoreCase then if flags.unicode then s.caseFold else foldAscii s else s

/-- The complement of the set if it is negated. Among the first 128 characters alone nothing may
be negated. -/
def negate? (flags : Flags) (negated : Bool) (s : CharSet) : Option CharSet :=
  if negated then if flags.unicode then some s.compl else none else some s

end Flags

/-! ## Properties -/

/-- A name of a property or value in its loose form: in lower case, without blanks, hyphens and
underscores, and without a leading `is`. -/
def looseName (name : String) : String :=
  let cs := name.toList
  let dropped (cs : List Char) : List Char :=
    (cs.filter fun c => c != ' ' && c != '_' && c != '-' && c.toNat < 128).map Char.toLower
  match cs with
  | i :: s :: rest =>
    if (i = 'i' || i = 'I') && (s = 's' || s = 'S') then
      let short := dropped rest
      String.ofList (if short = ['c'] then ['i', 's', 'c'] else short)
    else String.ofList (dropped cs)
  | _ => String.ofList (dropped cs)

/-- The characters with a property. -/
def PropertyName.set? : PropertyName → Option CharSet
  | .simple name =>
    let name := looseName name
    (Unicode.Property.named? name).or
      ((Unicode.CaseChange.named? name).or
        ((Unicode.Category.named? name).or (Unicode.Script.named? name)))
  | .valued name value =>
    let value := looseName value
    match looseName name with
    | "generalcategory" | "gc" => Unicode.Category.named? value
    | "script" | "sc" => Unicode.Script.named? value
    | "scriptextensions" | "scx" => Unicode.ScriptExtension.named? value
    | "age" => Unicode.Age.named? value
    | "graphemeclusterbreak" | "gcb" => Unicode.Boundary.Grapheme.named? value
    | "wordbreak" | "wb" => Unicode.Boundary.Word.named? value
    | "sentencebreak" | "sb" => Unicode.Boundary.Sentence.named? value
    | _ => none

/-- The characters of a one-letter class. -/
def Shorthand.set (unicode : Bool) : Shorthand → CharSet
  | .digit => if unicode then Unicode.digit else Unicode.asciiDigit
  | .blank => if unicode then Unicode.blank else Unicode.asciiBlank
  | .word => if unicode then Unicode.word else Unicode.asciiWord

/-! ## Classes -/

/-- The operation of an operator. -/
def ClassOp.apply : ClassOp → CharSet → CharSet → CharSet
  | .inter => .inter
  | .diff => .diff
  | .symmDiff => .symmDiff

mutual

/-- The set that an operand of a class stands for. -/
def ClassExpr.set? (flags : Flags) : ClassExpr → Option CharSet
  | .char c _ => if flags.unicode || c.toNat < 128 then some (.singleton c) else none
  | .range lo hi _ _ => if flags.unicode || hi.toNat < 128 then some (.range lo hi) else none
  | .ascii s negated => flags.negate? negated (flags.fold s)
  | .shorthand kind negated => flags.negate? negated (kind.set flags.unicode)
  | .property name negated =>
    if flags.unicode then name.set?.bind fun s => flags.negate? negated (flags.fold s) else none
  | .bracketed negated body =>
    (body.set? flags).bind fun s => flags.negate? negated (flags.fold s)
  | .union items => ClassExpr.unionSet? flags items
  | .operation op l r =>
    (l.set? flags).bind fun a => (r.set? flags).map fun b => op.apply (flags.fold a) (flags.fold b)

def ClassExpr.unionSet? (flags : Flags) : List ClassExpr → Option CharSet
  | [] => some .empty
  | e :: es => (e.set? flags).bind fun a => (ClassExpr.unionSet? flags es).map a.union

end

/-! ## Expressions -/

/-- The assertion that is meant under the flags. -/
def Assertion.look (flags : Flags) : Assertion → Look
  | .lineStart =>
    if flags.multiLine then if flags.anyLineBreak then .anyLineStart else .lineStart
    else .textStart
  | .lineEnd =>
    if flags.multiLine then if flags.anyLineBreak then .anyLineEnd else .lineEnd else .textEnd
  | .textStart => .textStart
  | .textEnd => .textEnd
  | .wordBoundary => .wordBoundary flags.unicode
  | .notWordBoundary => .notWordBoundary flags.unicode
  | .wordStart => .wordStart flags.unicode
  | .wordEnd => .wordEnd flags.unicode
  | .wordStartHalf => .wordStartHalf flags.unicode
  | .wordEndHalf => .wordEndHalf flags.unicode

/-- What a dot stands for. -/
def Flags.dot (flags : Flags) : CharSet :=
  if flags.dotAll then .all
  else if flags.anyLineBreak then (CharSet.ofBounds [10, 11, 13, 14]).compl
  else (CharSet.singleton '\n').compl

mutual

/-- The term that an expression means, and the flags that hold after it. -/
def Expr.term? (flags : Flags) : Expr → Option (Term × Flags)
  | .empty => some (.empty, flags)
  | .setFlags change => some (.empty, flags.update change)
  | .char c coded =>
    if !flags.unicode && coded && 128 ≤ c.toNat then none
    else if flags.ignoreCase && (flags.unicode || c.toNat < 128) then
      some (.ofSet (flags.fold (.singleton c)), flags)
    else some (.literal [c], flags)
  | .dot => if flags.unicode then some (.ofSet flags.dot, flags) else none
  | .assertion a => some (.look (a.look flags), flags)
  | .shorthand kind negated =>
    (flags.negate? negated (kind.set flags.unicode)).map fun s => (.ofSet s, flags)
  | .property name negated =>
    ((ClassExpr.property name negated).set? flags).map fun s => (.ofSet s, flags)
  | .bracketed negated body =>
    ((ClassExpr.bracketed negated body).set? flags).map fun s => (.ofSet s, flags)
  | .repeated min max greedy body =>
    (body.term? flags).map fun (t, after) =>
      (.ofRepetition min max (greedy != after.swapGreed) t, after)
  | .capture index body => (body.term? flags).map fun (t, _) => (.capture index t, flags)
  | .group change body => (body.term? (flags.update change)).map fun (t, _) => (t, flags)
  | .concat items => (Expr.terms? flags items).map fun (ts, after) => (.ofSequence ts, after)
  | .alternation items =>
    (Expr.terms? flags items).map fun (ts, after) => (.ofAlternatives ts, after)

/-- The terms of expressions that follow each other. -/
def Expr.terms? (flags : Flags) : List Expr → Option (List Term × Flags)
  | [] => some ([], flags)
  | e :: es =>
    (e.term? flags).bind fun (t, after) =>
      (Expr.terms? after es).map fun (ts, last) => (t :: ts, last)

end

/-- The term that an expression means under flags. -/
def Expr.meaning? (flags : Flags) (e : Expr) : Option Term := (e.term? flags).map Prod.fst

end Tint.Regex
