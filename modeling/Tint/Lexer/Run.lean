import Tint.Diagnostic
import Tint.Grammar.Classification
import Tint.Lexer.Memo
import Tint.Lexer.ModeStack
import Tint.LexError

/-!
# Reading a text with a grammar

Reading goes from boundary to boundary. From the present place the first match is looked for among
what the open mode forbids, what closes it, and what opens the modes it contains; of matches that
start alike the first in this order wins.

- Forbidden text is an error.
- A closing match still belongs to the mode. Its text up to the end of the match becomes spans,
  and the mode that was open before goes on behind the match.
- An opening match belongs to the mode that it opens. The text before it becomes spans.
- Without a match, the rest becomes spans of the open mode, and reading is done.

An opening match is not empty, and every closing match undoes an opening one. So reading takes no
more than twice as many transitions as the text has octets, and one.
-/

namespace Tint

/-- How far reading may go. -/
structure LexOptions where
  /-- The most transitions that may be taken; by default as many as can be. -/
  stepLimit : Option Nat := none
  /-- The most modes that may be open at once, with the default mode. -/
  maxDepth : Nat := 1024
deriving DecidableEq, Repr

/-- The most transitions that reading a text of this size can take. -/
def maxSteps (size : Nat) : Nat := 2 * size + 1

/-- The most transitions that may be taken in a text. -/
def LexOptions.stepLimitFor (options : LexOptions) (text : String) : Nat :=
  options.stepLimit.getD (maxSteps (Text.size text.toList))

/-- What reading a text gives. -/
structure LexOutput where
  spans : List Span := []
  /-- The relevance of the default mode and of every mode each time it was opened. -/
  relevance : Int := 0
  diagnostics : List Diagnostic := []
deriving DecidableEq, Repr

namespace Lexer

/-! ## The next boundary -/

/-- What a match does. -/
inductive Transition where
  | forbidden
  | close
  | enter (mode : Nat)
deriving DecidableEq, Repr

/-- A pattern to look out for. -/
structure Watch where
  transition : Transition
  key : Slot.Key
  pattern : Pattern

/-- A match and what it does. -/
structure Boundary where
  transition : Transition
  found : Found
deriving DecidableEq, Repr

/-- What to look out for in a mode, in the order of priority. A mode without an opening pattern
cannot be opened. -/
def watches (g : Grammar) (index : Nat) : List Watch :=
  let m := g.mode index
  (m.illegal.map fun p => ⟨.forbidden, ⟨index, .illegal⟩, p⟩).toList ++
  (m.endPattern.map fun p => ⟨.close, ⟨index, .closer⟩, p⟩).toList ++
  m.contains.filterMap fun child =>
    (g.mode child).beginPattern.map fun p => ⟨.enter child, ⟨child, .opener⟩, p⟩

/-- The boundary that starts first; of two that start alike, the one that was there before. -/
def earlier (best : Option Boundary) (transition : Transition) (found : Option Found) :
    Option Boundary :=
  match found with
  | none => best
  | some f =>
    match best with
    | none => some ⟨transition, f⟩
    | some b => if f.start < b.found.start then some ⟨transition, f⟩ else best

/-- The next boundary in the text from `position` on, which is `rest`. -/
def nextBoundary (watches : List Watch) (rest : List Char) (position : Nat) (memo : Memo) :
    Option Boundary × Memo :=
  watches.foldl
    (fun (best, memo) w =>
      let (found, memo) := memo.find w.key w.pattern rest position
      (earlier best w.transition found, memo))
    (none, memo)

/-! ## Transitions -/

/-- How far reading has come. -/
structure State where
  position : Nat := 0
  stack : ModeStack := .start
  memo : Memo := .empty

/-- What is read: a text, its size, the grammar, and how deeply modes may be nested. -/
structure Job where
  grammar : Grammar
  text : List Char
  size : Nat
  maxDepth : Nat

/-- What one transition leads to. -/
inductive Outcome where
  | fail (error : LexError)
  | done (output : LexOutput)
  | next (spans : List Span) (relevance : Int) (state : State)

/-- The boundary that comes next. -/
def State.boundary (job : Job) (s : State) : Option Boundary × Memo :=
  match Text.dropTo? job.text s.position with
  | some rest => nextBoundary (watches job.grammar s.stack.top.mode) rest s.position s.memo
  | none => (none, s.memo)

/-- The spans of the open mode's own text up to a place. -/
def ownSpans (job : Job) (frame : Frame) (stop : Nat) : List Span :=
  (job.grammar.mode frame.mode).classify (Text.between job.text frame.textStart stop)
    frame.textStart

/-- The diagnostics of the modes that are open at the end of the text, outermost first. -/
def unterminated (job : Job) (stack : ModeStack) : List Diagnostic :=
  stack.openFrames.filterMap fun f =>
    Diagnostic.unterminated? (job.grammar.mode f.mode).className f.entry job.size

/-- Take one transition. -/
def step (job : Job) (s : State) : Outcome :=
  let frame := s.stack.top
  let mode := job.grammar.mode frame.mode
  let (boundary, memo) := s.boundary job
  match boundary with
  | none =>
    .done
      { spans := ownSpans job frame job.size, diagnostics := unterminated job s.stack }
  | some ⟨.forbidden, f⟩ =>
    .fail (.illegalSequence f.start (String.ofList (Text.between job.text f.start f.stop))
      job.grammar.name mode.className)
  | some ⟨.close, f⟩ =>
    .next (ownSpans job frame f.stop) 0
      { position := f.stop, stack := s.stack.pop.2.setTextStart f.stop, memo }
  | some ⟨.enter child, f⟩ =>
    if job.maxDepth ≤ s.stack.depth then
      .fail (.nestingTooDeep job.grammar.name job.maxDepth f.start)
    else
      .next (ownSpans job frame f.start) (job.grammar.mode child).relevance
        { position := f.stop, stack := s.stack.push child f.start, memo }

/-- Take transitions until reading is done; `limit` is reported when the budget is used up. -/
def run (job : Job) (limit : Nat) : (budget : Nat) → State → Except LexError LexOutput
  | 0, _ => .error (.stepLimitExceeded job.grammar.name limit)
  | budget + 1, s =>
    match step job s with
    | .fail e => .error e
    | .done out => .ok out
    | .next spans relevance s' =>
      (run job limit budget s').map fun out =>
        { out with spans := spans ++ out.spans, relevance := relevance + out.relevance }

end Lexer

/-- Read a text. A limit above the most transitions that can be taken is never reached. -/
def Grammar.lex (g : Grammar) (text : String) (options : LexOptions) :
    Except LexError LexOutput :=
  let cs := text.toList
  let size := Text.size cs
  let limit := options.stepLimitFor text
  let job : Lexer.Job := { grammar := g, text := cs, size, maxDepth := options.maxDepth }
  (Lexer.run job limit (Nat.min limit (maxSteps size)) {}).map fun out =>
    { out with relevance := g.defaultMode.relevance + out.relevance }

/-- The spans of a text. -/
def Grammar.highlight (g : Grammar) (text : String) (options : LexOptions) :
    Except LexError (List Span) :=
  (g.lex text options).map (·.spans)

end Tint
