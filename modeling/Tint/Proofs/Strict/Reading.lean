import Tint.Proofs.Ending
import Tint.Proofs.Provenance
import Tint.Proofs.Strict.Words
import Mathlib.Data.List.ReduceOption

/-!
# Reading with every access checked

The reader of this module goes through a text as `Tint.Lexer.Run` does, but has no answer at all
where it would need something that is not there:

- a mode, by an index that is not below the number of modes or does not fit into 32 bits;
- an entry of the table of remembered searches, which has three entries for each mode;
- the last frame of a stack without frames, or the frames above the bottom of such a stack;
- a stretch of the text whose places are in the wrong order, past the end or inside a character;
- a range whose places are in the wrong order;
- a transition whose number does not fit into 64 bits;
- and at the end, spans that do not cover the text.

**Simulation (`step?_spec`).** Where both readers stand alike (`Sim`), every access of a transition
succeeds, and both come to the same result or stand alike again. The modes on the stack exist since
the grammar is closed, the places are in order since the stack is nested, and matches stand at
places of the text.

**Theorem (`strict_lex_eq_lex`).** So the checks never fail, and reading with them gives what
reading without them gives.
-/

namespace Tint

open Text Lexer

namespace Strict

/-! ## The reader -/

/-- The mode with an index. -/
def mode? (g : Grammar) (i : Nat) : Option Mode := if i < 2 ^ 32 then g.mode? i else none

/-- The place of a slot among those of its mode. -/
def slotIndex : Slot → Nat
  | .opener => 0
  | .closer => 1
  | .illegal => 2

/-- The place of a pattern in the table. -/
def keyIndex (key : Slot.Key) : Nat := key.mode * 3 + slotIndex key.slot

/-- The last search made with each pattern. -/
abbrev Table := List (Option Searched)

def Table.start (modes : Nat) : Table := List.replicate (modes * 3) none

/-- Search a text from a place on, and remember the answer. -/
def Table.find? (t : Table) (key : Slot.Key) (p : Pattern) (text : List Char) (position : Nat) :
    Option (Option Found × Table) := do
  let rest ← dropTo? text position
  let last ← t[keyIndex key]?
  let found := Memo.answer last key.slot p rest position
  return (found, t.set (keyIndex key) (some { position, found }))

/-- What to look out for in a mode, in the order of priority. -/
def watches? (g : Grammar) (index : Nat) : Option (List Watch) := do
  let m ← mode? g index
  let openers ← m.contains.mapM fun child => do
    let inner ← mode? g child
    return inner.beginPattern.map fun p => (⟨.enter child, ⟨child, .opener⟩, p⟩ : Watch)
  return (m.illegal.map fun p => (⟨.forbidden, ⟨index, .illegal⟩, p⟩ : Watch)).toList ++
    (m.endPattern.map fun p => (⟨.close, ⟨index, .closer⟩, p⟩ : Watch)).toList ++
    openers.reduceOption

/-- The next boundary in a text from a place on. -/
def nextBoundary? (watches : List Watch) (text : List Char) (position : Nat) (t : Table) :
    Option (Option Boundary × Table) :=
  watches.foldlM
    (fun (best, t) w => do
      let (found, t) ← t.find? w.key w.pattern text position
      return (earlier best w.transition found, t))
    (none, t)

/-- How far reading has come. The open modes are listed outermost first. -/
structure State where
  position : Nat := 0
  frames : List Frame := [⟨0, 0, 0⟩]
  table : Table

/-- What one transition leads to. -/
inductive Outcome where
  | fail (error : LexError)
  | done (output : LexOutput)
  | next (spans : List Span) (relevance : Int) (state : State)

/-- Take the last frame off, unless it is the only one, and set where the own text of the last frame
that is left starts. -/
def popTo? (frames : List Frame) (place : Nat) : Option (List Frame) := do
  let frames := if 1 < frames.length then frames.dropLast else frames
  let last ← frames.getLast?
  return frames.dropLast ++ [{ last with textStart := place }]

/-- The diagnostics of the modes that are open at the end of the text, outermost first. -/
def unterminated? (job : Job) (frames : List Frame) : Option (List Diagnostic) := do
  let above ← frames.tail?
  above.mapM fun f => do
    let m ← mode? job.grammar f.mode
    Diagnostic.unterminated? m.className f.entry job.size

/-- Take one transition. -/
def step? (job : Job) (t : State) : Option Outcome := do
  let frame ← t.frames.getLast?
  let mode ← mode? job.grammar frame.mode
  let watches ← watches? job.grammar frame.mode
  let (boundary, table) ← nextBoundary? watches job.text t.position t.table
  match boundary with
  | none =>
    let spans ← classify? mode job.text frame.textStart job.size
    let diagnostics ← unterminated? job t.frames
    return .done { spans, diagnostics }
  | some ⟨.forbidden, f⟩ =>
    let slice ← slice? job.text f.start f.stop
    return .fail (.illegalSequence f.start (String.ofList slice) job.grammar.name mode.className)
  | some ⟨.close, f⟩ =>
    let spans ← classify? mode job.text frame.textStart f.stop
    let frames ← popTo? t.frames f.stop
    return .next spans 0 { position := f.stop, frames, table }
  | some ⟨.enter child, f⟩ =>
    let spans ← classify? mode job.text frame.textStart f.start
    if job.maxDepth ≤ t.frames.length then
      return .fail (.nestingTooDeep job.grammar.name job.maxDepth f.start)
    else
      let inner ← mode? job.grammar child
      return .next spans inner.relevance
        { position := f.stop, frames := t.frames ++ [⟨child, f.start, f.start⟩], table }

/-- Take transitions until reading is done, and count them. The budget is not part of reading:
without an answer within it there is none at all. -/
def run? (job : Job) (limit : Nat) : (budget : Nat) → (steps : Nat) → State →
    Option (Except LexError LexOutput)
  | 0, _, _ => none
  | budget + 1, steps, t =>
    if 2 ^ 64 ≤ steps + 1 then none
    else if limit < steps + 1 then some (.error (.stepLimitExceeded job.grammar.name limit))
    else
      (step? job t).bind fun outcome =>
        match outcome with
        | .fail e => some (.error e)
        | .done out => some (.ok out)
        | .next spans relevance t' =>
          (run? job limit budget (steps + 1) t').map fun r =>
            r.map (LexOutput.after spans relevance)

/-- Read a text. -/
def lex? (g : Grammar) (text : String) (options : LexOptions) :
    Option (Except LexError LexOutput) := do
  let mode ← mode? g 0
  let r ← run? (g.job text options) (options.stepLimitFor text) (maxSteps (size text.toList)) 0
    { table := .start g.modeCount }
  match r with
  | .error e => return .error e
  | .ok out => if covers text out.spans then return .ok (out.after [] mode.relevance) else none

/-! ## Remembered searches -/

variable {g : Grammar} {job : Job} {text rest : List Char} {position : Nat} {modes : Nat}

theorem keyIndex_inj {key other : Slot.Key} (h : keyIndex key = keyIndex other) : key = other := by
  obtain ⟨m, slot⟩ := key
  obtain ⟨m', slot'⟩ := other
  simp only [keyIndex] at h
  have hslot : slotIndex slot < 3 := by cases slot <;> decide
  have hslot' : slotIndex slot' < 3 := by cases slot' <;> decide
  have hmode : m = m' := by omega
  have hindex : slotIndex slot = slotIndex slot' := by omega
  subst hmode
  cases slot <;> cases slot' <;> first | rfl | cases hindex

theorem keyIndex_lt {key : Slot.Key} (h : key.mode < modes) : keyIndex key < modes * 3 := by
  obtain ⟨m, slot⟩ := key
  have hslot : slotIndex slot < 3 := by cases slot <;> decide
  simp only [keyIndex]
  dsimp only at h
  omega

/-- The table holds what the memo does. -/
structure Table.Holds (t : Table) (modes : Nat) (m : Memo) : Prop where
  length : t.length = modes * 3
  get : ∀ key, key.mode < modes → t[keyIndex key]? = some (m.get? key)

theorem Table.holds_start (modes : Nat) : (Table.start modes).Holds modes .empty where
  length := List.length_replicate
  get key hkey := by
    rw [Table.start, List.getElem?_replicate, if_pos (keyIndex_lt hkey)]
    rfl

/-- A search in the table is one beside the memo. -/
theorem Table.Holds.find {t : Table} {m : Memo} {key : Slot.Key} (h : t.Holds modes m)
    (hkey : key.mode < modes) (p : Pattern) (hr : dropTo? text position = some rest) :
    ∃ t', t.find? key p text position = some ((m.find key p rest position).1, t') ∧
      Table.Holds t' modes (m.find key p rest position).2 := by
  refine ⟨_, by simp only [Table.find?, hr, h.get key hkey]; rfl, ?_, ?_⟩
  · rw [List.length_set, h.length]
  · intro other hother
    rw [Memo.find, Memo.get?_put]
    by_cases heq : other = key
    · subst heq
      rw [List.getElem?_set_self (h.length ▸ keyIndex_lt hother), if_pos rfl]
    · have hindex : keyIndex key ≠ keyIndex other := fun hi => heq (keyIndex_inj hi).symm
      rw [List.getElem?_set_ne hindex, if_neg heq, h.get other hother]

theorem nextBoundary?_spec {ws : List Watch} {t : Table} {memo : Memo} (h : t.Holds modes memo)
    (hw : ∀ w ∈ ws, w.key.mode < modes) (hr : dropTo? text position = some rest) :
    ∃ t', nextBoundary? ws text position t = some ((nextBoundary ws rest position memo).1, t') ∧
      Table.Holds t' modes (nextBoundary ws rest position memo).2 := by
  unfold nextBoundary? nextBoundary
  generalize (none : Option Boundary) = best
  induction ws generalizing best t memo with
  | nil => exact ⟨t, rfl, h⟩
  | cons w ws ih =>
    obtain ⟨t', hfind, ht'⟩ := h.find (hw w List.mem_cons_self) w.pattern hr
    obtain ⟨t'', hrest, ht''⟩ := ih ht' (fun w' hw' => hw w' (List.mem_cons_of_mem _ hw'))
      (earlier best w.transition (memo.find w.key w.pattern rest position).1)
    refine ⟨t'', ?_, ht''⟩
    rw [List.foldlM_cons]
    simp only [hfind]
    exact hrest

/-! ## Modes -/

/-- What compiling a grammar and taking up a text guarantee: there are not too many modes, the modes
that a mode contains exist, and the size is that of the text. -/
structure Closed (job : Job) : Prop where
  modeCount_le : job.grammar.modeCount ≤ 2 ^ 32
  contains_lt : ∀ i, ∀ child ∈ (job.grammar.mode i).contains, child < job.grammar.modeCount
  size_eq : job.size = size job.text

theorem Closed.mode?_eq (hj : Closed job) {i : Nat} (h : i < job.grammar.modeCount) :
    mode? job.grammar i = some (job.grammar.mode i) := by
  have hle := hj.modeCount_le
  rw [mode?, if_pos (by omega), job.grammar.mode?_eq_some h]

theorem mapM_eq_filterMap {α β : Type} {f : α → Option β} {l : List α}
    (h : ∀ x ∈ l, ∃ y, f x = some y) : l.mapM f = some (l.filterMap f) := by
  induction l with
  | nil => rfl
  | cons x l ih =>
    obtain ⟨⟨y, hy⟩, hl⟩ := List.forall_mem_cons.1 h
    rw [List.mapM_cons, hy, ih hl, List.filterMap_cons_some hy]
    rfl

theorem Closed.watches?_eq (hj : Closed job) {i : Nat} (h : i < job.grammar.modeCount) :
    watches? job.grammar i = some (watches job.grammar i) := by
  have hmode := fun child hchild => hj.mode?_eq (hj.contains_lt i child hchild)
  rw [watches?, hj.mode?_eq h]
  simp only [Option.bind_eq_bind, Option.bind_some]
  rw [mapM_eq_filterMap fun child hchild => ⟨_, by rw [hmode child hchild]; rfl⟩, Option.bind_some,
    List.reduceOption, List.filterMap_filterMap, watches]
  congr 2
  refine List.filterMap_congr fun child hchild => ?_
  rw [hmode child hchild]
  rfl

theorem Closed.key_lt (hj : Closed job) {i : Nat} (h : i < job.grammar.modeCount) :
    ∀ w ∈ watches job.grammar i, w.key.mode < job.grammar.modeCount := by
  intro w hw
  simp only [watches, List.mem_append, Option.mem_toList, Option.map_eq_some_iff,
    List.mem_filterMap] at hw
  rcases hw with (⟨p, -, rfl⟩ | ⟨p, -, rfl⟩) | ⟨child, hchild, p, -, rfl⟩
  · exact h
  · exact h
  · exact hj.contains_lt i child hchild

/-! ## Stacks -/

theorem popTo?_frames (stack : ModeStack) (place : Nat) :
    popTo? stack.frames place = some (stack.pop.2.setTextStart place).frames := by
  obtain ⟨bottom, above⟩ := stack
  cases above with
  | nil => rfl
  | cons f above =>
    cases above with
    | nil => rfl
    | cons f' above =>
      have hframes : (⟨bottom, f :: f' :: above⟩ : ModeStack).frames =
          (bottom :: above.reverse ++ [f']) ++ [f] := by
        simp [ModeStack.frames, ModeStack.openFrames]
      rw [popTo?, hframes, if_pos (by simp)]
      simp only [List.dropLast_concat, List.getLast?_concat, Option.bind_eq_bind, Option.bind_some]
      simp [ModeStack.frames, ModeStack.openFrames, ModeStack.pop, ModeStack.setTextStart]

theorem mode_mem_of_pop {stack : ModeStack} {place : Nat} {f : Frame}
    (h : f ∈ (stack.pop.2.setTextStart place).frames) : ∃ f' ∈ stack.frames, f.mode = f'.mode := by
  obtain ⟨bottom, above⟩ := stack
  rcases above with _ | ⟨top, _ | ⟨next, above⟩⟩
  · simp_all [ModeStack.frames, ModeStack.openFrames, ModeStack.pop, ModeStack.setTextStart]
  · simp_all [ModeStack.frames, ModeStack.openFrames, ModeStack.pop, ModeStack.setTextStart]
  · simp only [ModeStack.frames, ModeStack.openFrames, ModeStack.pop, ModeStack.setTextStart,
      List.mem_cons, List.mem_reverse] at h ⊢
    rcases h with rfl | rfl | h
    · exact ⟨_, .inl rfl, rfl⟩
    · exact ⟨next, .inr (.inr (.inl rfl)), rfl⟩
    · exact ⟨f, .inr (.inr (.inr h)), rfl⟩

/-! ## One transition -/

/-- Both readers stand alike, in a state that a run comes to. -/
structure Sim (job : Job) (t : State) (s : Lexer.State) : Prop where
  position : t.position = s.position
  frames : t.frames = s.stack.frames
  table : t.table.Holds job.grammar.modeCount s.memo
  sound : s.Sound job
  nested : s.config.Nested job.text
  mode_lt : ∀ f ∈ s.stack.frames, f.mode < job.grammar.modeCount

theorem sim_start (job : Job) : Sim job { table := .start job.grammar.modeCount } {} where
  position := rfl
  frames := rfl
  table := Table.holds_start _
  sound := sound_start job
  nested := nested_start job.text
  mode_lt := List.forall_mem_singleton.2 (Nat.zero_lt_succ _)

variable {t t' : State} {s s' : Lexer.State}

/-- The boundary is found, and the table goes on holding what the memo does. -/
theorem Sim.boundary (h : Sim job t s) (hj : Closed job) :
    ∃ table, nextBoundary? (watches job.grammar s.stack.top.mode) job.text t.position t.table =
        some ((s.boundary job).1, table) ∧
      Table.Holds table job.grammar.modeCount (s.boundary job).2 := by
  obtain ⟨rest, hr⟩ := isPlace_iff_dropTo?.1 h.sound.place
  have htop := h.mode_lt _ (List.mem_of_getLast? (s.stack.getLast?_frames))
  rw [Lexer.State.boundary, hr, h.position]
  exact nextBoundary?_spec h.table (hj.key_lt htop) hr

theorem Sim.classify?_eq (h : Sim job t s) {stop : Nat} (hle : s.position ≤ stop)
    (hstop : IsPlace job.text stop) :
    classify? (job.grammar.mode s.stack.top.mode) job.text s.stack.top.textStart stop =
      some (ownSpans job s.stack.top stop) := by
  obtain ⟨own, hown⟩ : ∃ own, slice? job.text s.stack.top.textStart stop = some own :=
    exists_slice? h.nested.textStart hstop (Nat.le_trans h.nested.textStart_le hle)
  rw [ownSpans, between_of_slice? hown]
  exact Strict.classify?_eq _ hown

theorem Sim.unterminated?_eq (h : Sim job t s) (hj : Closed job) :
    unterminated? job t.frames = some (unterminated job s.stack) := by
  have hframe : ∀ f ∈ s.stack.openFrames,
      (mode? job.grammar f.mode).bind (fun m =>
        Diagnostic.unterminated? m.className f.entry job.size) =
          Diagnostic.unterminated? (job.grammar.mode f.mode).className f.entry job.size ∧
      ∃ d, Diagnostic.unterminated? (job.grammar.mode f.mode).className f.entry job.size =
        some d := by
    intro f hf
    rw [hj.mode?_eq (h.mode_lt f (List.mem_cons_of_mem _ hf))]
    refine ⟨rfl, ?_⟩
    have hopened : (⟨f.mode, f.entry, size job.text⟩ : Region) ∈ s.config.opened job.text :=
      List.mem_map_of_mem (List.mem_reverse.1 hf)
    have hentry : f.entry < s.position := h.nested.start_lt _ hopened
    have hend : s.position ≤ job.size := hj.size_eq ▸ h.sound.place.le_size
    rw [Diagnostic.unterminated?, TextRange.between?_of_le (by omega)]
    exact ⟨_, rfl⟩
  rw [unterminated?, h.frames]
  refine (mapM_eq_filterMap fun f hf => ?_).trans (congrArg some ?_)
  · obtain ⟨heq, d, hd⟩ := hframe f hf
    exact ⟨d, heq.trans hd⟩
  · exact List.filterMap_congr fun f hf => (hframe f hf).1

/-- What a transition of one reader leads to is what that of the other one does. -/
inductive Alike (job : Job) : Option Outcome → Lexer.Outcome → Prop
  | fail (e : LexError) : Alike job (some (.fail e)) (.fail e)
  | done (out : LexOutput) : Alike job (some (.done out)) (.done out)
  | next {spans : List Span} {relevance : Int} {t : State} {s : Lexer.State} :
      Sim job t s → Alike job (some (.next spans relevance t)) (.next spans relevance s)

/-- Both readers take the same boundary, and go on alike behind it. -/
theorem Sim.after (h : Sim job t s) (hj : Closed job) {b : Boundary}
    (hw : Wins (offers job.grammar job.text s.config) b) (hne : b.transition ≠ .forbidden)
    (hposition : t'.position = s'.position) (hframes : t'.frames = s'.stack.frames)
    (htable : t'.table.Holds job.grammar.modeCount s'.memo) (hsound : s'.Sound job)
    (hafter : s'.config = s.config.after b) : Sim job t' s' where
  position := hposition
  frames := hframes
  table := htable
  sound := hsound
  nested := hafter ▸ h.nested.after hw hne
  mode_lt := by
    have hstack : s'.stack = (s.config.after b).stack := congrArg Config.stack hafter
    rw [hstack]
    intro f hf
    obtain ⟨t, found⟩ := b
    cases t with
    | forbidden => exact absurd rfl hne
    | close =>
      obtain ⟨f', hf', hmode⟩ := mode_mem_of_pop hf
      exact hmode ▸ h.mode_lt f' hf'
    | enter child =>
      rw [Config.after, ModeStack.frames_push, List.mem_append, List.mem_singleton] at hf
      rcases hf with hf | rfl
      · exact h.mode_lt f hf
      · exact hj.contains_lt _ child (enter_of_offer hw.mem).1

/-- **Simulation.** Where both readers stand alike, every access of a transition succeeds, and both
come to the same result or stand alike again. -/
theorem step?_spec (h : Sim job t s) (hj : Closed job) :
    Alike job (step? job t) (Lexer.step job s) := by
  have htop := h.mode_lt _ (List.mem_of_getLast? (s.stack.getLast?_frames))
  obtain ⟨table, hboundary, htable⟩ := h.boundary hj
  obtain ⟨hwin, hmemo⟩ := boundary_spec h.sound
  have hframe : t.frames.getLast? = some s.stack.top := h.frames ▸ s.stack.getLast?_frames
  simp only [step?, hframe, hj.mode?_eq htop, hj.watches?_eq htop, hboundary, Lexer.step,
    Option.bind_eq_bind, Option.bind_some]
  cases hb : (s.boundary job).1 with
  | none =>
    have hsize := hj.size_eq
    have hspans := h.classify?_eq (hsize ▸ h.sound.place.le_size) (hsize ▸ isPlace_size job.text)
    simp only [hspans, h.unterminated?_eq hj, Option.bind_some]
    exact .done _
  | some b =>
    have hw : Wins (offers job.grammar job.text s.config) b :=
      winner_eq_some_iff.1 (hwin.symm.trans hb)
    obtain ⟨-, ⟨w, hslice⟩, -⟩ := offers_spec hw.mem
    have hplace := isPlace_right_of_slice? hslice
    obtain ⟨transition, f⟩ := b
    cases transition with
    | forbidden =>
      simp only [hslice, between_of_slice? hslice, Option.bind_some]
      exact .fail _
    | close =>
      have hallowed : Transition.close ≠ .forbidden := by decide
      obtain ⟨hle, -, hcut⟩ := cut_spec hw hallowed
      have hspans := h.classify?_eq hle hcut
      simp only [Boundary.cut] at hspans
      simp only [hspans, h.frames, popTo?_frames, Option.bind_some]
      exact .next (h.after hj hw hallowed rfl rfl htable ⟨hplace, hmemo⟩ rfl)
    | enter child =>
      have hallowed : Transition.enter child ≠ .forbidden := by
        intro henter
        cases henter
      obtain ⟨hle, -, hcut⟩ := cut_spec hw hallowed
      have hspans := h.classify?_eq hle hcut
      have hchild := hj.mode?_eq (hj.contains_lt _ child (enter_of_offer hw.mem).1)
      simp only [Boundary.cut] at hspans
      simp only [hspans, h.frames, ModeStack.length_frames, hchild, Option.bind_some]
      split
      · exact .fail _
      · exact .next (h.after hj hw hallowed rfl (ModeStack.frames_push ..).symm htable
          ⟨hplace, hmemo⟩ rfl)

/-! ## Runs -/

/-- Readers that stand alike come to the same end. The steps are counted from those taken before,
and their number decides whether the limit is met on the way. -/
theorem Sim.run?_eq {states : List Lexer.State} {r : Except LexError LexOutput}
    (h : Sim job t s) (hj : Closed job) (hreads : Reads (Lexer.step job) s states r) (limit : Nat)
    {budget steps : Nat} (hbudget : states.length ≤ budget)
    (hsteps : steps + states.length < 2 ^ 64) :
    run? job limit budget steps t =
      some (if limit < steps + states.length then
          .error (.stepLimitExceeded job.grammar.name limit)
        else r) := by
  induction hreads generalizing budget steps t with
  | @last s r hstep =>
    rw [List.length_singleton] at hbudget hsteps ⊢
    obtain ⟨budget, rfl⟩ : ∃ n, budget = n + 1 := ⟨budget - 1, by omega⟩
    have halike := step?_spec h hj
    rw [run?, if_neg (by omega)]
    split
    · rfl
    · rw [hstep] at halike
      generalize step? job t = outcome at halike ⊢
      cases r with
      | ok out =>
        cases halike
        rfl
      | error e =>
        cases halike
        rfl
  | @next s s' spans relevance states r hstep hrest ih =>
    rw [List.length_cons] at hbudget hsteps ⊢
    obtain ⟨budget, rfl⟩ : ∃ n, budget = n + 1 := ⟨budget - 1, by omega⟩
    have halike := step?_spec h hj
    rw [hstep] at halike
    obtain ⟨t', hstep', ht'⟩ :
        ∃ t', step? job t = some (.next spans relevance t') ∧ Sim job t' s' := by
      generalize step? job t = outcome at halike
      cases halike with
      | next ht' => exact ⟨_, rfl, ht'⟩
    rw [run?, if_neg (by omega), hstep', Option.bind_some]
    dsimp only
    rw [ih ht' (by omega) (by omega)]
    have hcount : steps + 1 + states.length = steps + (states.length + 1) := by omega
    rw [hcount]
    by_cases hfirst : limit < steps + 1
    · rw [if_pos hfirst, if_pos (by omega)]
    · rw [if_neg hfirst]
      split
      · rfl
      · rfl

end Strict

/-! ## Reading a text -/

namespace Grammar

variable {name : String} {d : GrammarDefinition} {g : Grammar}

theorem closed_of_compile (h : compile name d = .ok g) (hmodes : d.modes.length < 2 ^ 32 - 1)
    (text : String) (options : LexOptions) : Strict.Closed (g.job text options) where
  modeCount_le := by
    have hcount : g.modeCount = d.modes.length + 1 := modeCount_of_compile h
    show g.modeCount ≤ 2 ^ 32
    omega
  contains_lt := contains_lt_of_compile h
  size_eq := rfl

theorem covers_of_lex_eq_ok {text : String} {options : LexOptions} {out : LexOutput}
    (h : g.lex text options = .ok out) : covers text out.spans = true :=
  (lays_of_lex_eq_ok h).coversFrom (slice?_zero_size _)

theorem exists_range_of_lex_eq_ok {text : String} (hsize : size text.toList < 2 ^ 63)
    {options : LexOptions} {out : LexOutput} (h : g.lex text options = .ok out) :
    ∀ s ∈ out.spans, ∃ range, s.range? = some range ∧ range.start ≤ range.stop := by
  intro s hs
  obtain ⟨-, hlt, hstop⟩ := (lays_of_lex_eq_ok h).bounds hs
  have hfits : s.stop < 1 <<< 64 := by
    have hplaces : 1 <<< 64 = 2 ^ 64 := by decide
    omega
  exact ⟨_, Span.range?_of_stop_lt hfits, TextRange.place_mono (Nat.le_of_lt hlt)⟩

/-- **Reading never asks for what is not there.** For every grammar that is compiled from less than
2^32 - 1 modes, every text of less than 2^63 octets and all options, reading with every access
checked has an answer, and it is the answer of reading without the checks. Each span of it has a
range, whose places are in order. -/
theorem strict_lex_eq_lex (h : compile name d = .ok g) (hmodes : d.modes.length < 2 ^ 32 - 1)
    (text : String) (hsize : size text.toList < 2 ^ 63) (options : LexOptions) :
    Strict.lex? g text options = some (g.lex text options) ∧
      ∀ out, g.lex text options = .ok out → ∀ s ∈ out.spans,
        ∃ range, s.range? = some range ∧ range.start ≤ range.stop := by
  have hg := (bare_of_compile h).2
  have hj := closed_of_compile h hmodes text options
  obtain ⟨states, r, hreads⟩ :=
    exists_reads hg (follows_step (g.job text options)) (sound_start _) rfl
  have hlen := length_le_maxSteps hg (follows_step _) hreads
  have hsteps : 0 + states.length < 2 ^ 64 := by
    unfold maxSteps at hlen
    omega
  have hrun := (Strict.sim_start _).run?_eq hj hreads (options.stepLimitFor text) hlen hsteps
  have hlex := lex_eq_of_reads hg hreads
  refine ⟨?_, fun out => exists_range_of_lex_eq_ok hsize⟩
  have hmode : Strict.mode? g 0 = some g.defaultMode := hj.mode?_eq (Nat.zero_lt_succ _)
  have hstart : Strict.run? (g.job text options) (options.stepLimitFor text)
      (maxSteps (size text.toList)) 0 { table := .start g.modeCount } = _ := hrun
  rw [Strict.lex?, hmode, hstart, Nat.zero_add]
  simp only [Option.bind_eq_bind, Option.bind_some]
  split at hlex
  · next hlimit =>
    rw [if_pos hlimit, hlex]
    rfl
  · next hlimit =>
    rw [if_neg hlimit]
    cases r with
    | error e =>
      rw [hlex]
      rfl
    | ok out =>
      have hok : g.lex text options = .ok (g.withDefault out) := hlex
      have hcovers := covers_of_lex_eq_ok hok
      change covers text out.spans = true at hcovers
      dsimp only
      rw [if_pos hcovers, hok]
      rfl

/-- A block is closed, and one stays open to the end. -/
theorem strict_lex_eq_lex_blocks :
    ∃ g out, compile "blocks" blocks = .ok g ∧ blocks.modes.length < 2 ^ 32 - 1 ∧
      size "if é\x7bif\x7b\x7d".toList < 2 ^ 63 ∧
      g.lex "if é\x7bif\x7b\x7d" { maxDepth := 3 } = .ok out ∧
      out.spans = [⟨"keyword", "if", 0⟩, ⟨"", " é", 2⟩, ⟨"block", "\x7bif", 5⟩,
        ⟨"block", "\x7b\x7d", 8⟩] ∧
      out.diagnostics.map (·.range) = [⟨5, 10⟩] ∧
      Strict.lex? g "if é\x7bif\x7b\x7d" { maxDepth := 3 } = some (.ok out) ∧
      ∀ s ∈ out.spans, ∃ range, s.range? = some range ∧ range.start ≤ range.stop := by
  have hrun : (((compile "blocks" blocks).toOption.bind fun g =>
      (g.lex "if é\x7bif\x7b\x7d" { maxDepth := 3 }).toOption).map fun out =>
        (out.spans, out.diagnostics.map (·.range))) =
      some ([⟨"keyword", "if", 0⟩, ⟨"", " é", 2⟩, ⟨"block", "\x7bif", 5⟩,
        ⟨"block", "\x7b\x7d", 8⟩], [⟨5, 10⟩]) := by
    decide +kernel
  obtain ⟨out, hout, hboth⟩ := Option.map_eq_some_iff.1 hrun
  obtain ⟨g, hg, hlex⟩ := Option.bind_eq_some_iff.1 hout
  obtain ⟨hspans, hranges⟩ := Prod.mk.inj hboth
  rw [Except.toOption_eq_some_iff] at hg hlex
  have hmodes : blocks.modes.length < 2 ^ 32 - 1 := by decide
  have hsize : size "if é\x7bif\x7b\x7d".toList < 2 ^ 63 := by decide
  obtain ⟨hstrict, hrange⟩ := strict_lex_eq_lex hg hmodes _ hsize { maxDepth := 3 }
  exact ⟨g, out, hg, hmodes, hsize, hlex, hspans, hranges, hstrict.trans (congrArg some hlex),
    hrange out hlex⟩

end Grammar

end Tint
