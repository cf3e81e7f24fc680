import Tint.Proofs.Ending
import Tint.Proofs.Provenance
import Tint.Proofs.Shift

/-!
# Reading starts anew where only the default mode is open

**Simulation (`step_behind`).** Put a text behind another one, and let one reader stand in it and
another one at the same place behind the text in front, with the same modes open. Then both do the
same. What they remember of earlier searches may differ, but both memos are sound, so the matches on
offer are the same (`offers_shift`), and nothing else decides what is done.

**At the bottom (`config_eq_shift_start`).** Where only the default mode is open, its own text that
waits for spans starts at the very place. So the reader stands as one that starts there.

**Theorem (`lex_restart`).** From such a place on, reading gives what reading the rest of the text
on its own gives, moved to that place.
-/

namespace Tint

open Text

/-! ## Moved configurations -/

def Frame.shift (k : Nat) (f : Frame) : Frame :=
  { f with entry := k + f.entry, textStart := k + f.textStart }

/-- The stack with its places moved; the default mode is never entered, so it has no such place. -/
def ModeStack.shift (k : Nat) (s : ModeStack) : ModeStack where
  bottom := { s.bottom with textStart := k + s.bottom.textStart }
  above := s.above.map (Frame.shift k)

def LexOutput.shift (k : Nat) (out : LexOutput) : LexOutput :=
  { out with
    spans := out.spans.map (Span.shift k)
    diagnostics := out.diagnostics.map (Diagnostic.shift k) }

namespace Lexer

variable {g : Grammar} {pre text : List Char} {b : Boundary} {bs : List Boundary} {c c' : Config}
  {job : Job} {s s₀ : State} {k : Nat} {r : Except LexError LexOutput} {states : List State}

def Boundary.shift (k : Nat) (b : Boundary) : Boundary := { b with found := b.found.shift k }

def Config.shift (k : Nat) (c : Config) : Config := ⟨k + c.position, c.stack.shift k⟩

/-- The result with its places moved. -/
def shiftResult (k : Nat) : Except LexError LexOutput → Except LexError LexOutput
  | .ok out => .ok (out.shift k)
  | .error e => .error (e.shift k)

/-- The job of reading the text behind another one. -/
def Job.behind (job : Job) (pre : List Char) : Job :=
  { job with text := pre ++ job.text, size := Text.size pre + job.size }

theorem top_shift (k : Nat) (stack : ModeStack) :
    (stack.shift k).top.mode = stack.top.mode ∧
      (stack.shift k).top.textStart = k + stack.top.textStart := by
  unfold ModeStack.top ModeStack.shift
  cases stack.above with
  | nil => exact ⟨rfl, rfl⟩
  | cons f rest => exact ⟨rfl, rfl⟩

theorem depth_shift (k : Nat) (stack : ModeStack) : (stack.shift k).depth = stack.depth := by
  simp [ModeStack.depth, ModeStack.shift]

theorem after_shift (k : Nat) (c : Config) (b : Boundary) :
    (c.shift k).after (b.shift k) = (c.after b).shift k := by
  obtain ⟨t, f⟩ := b
  obtain ⟨position, bottom, above⟩ := c
  cases t with
  | forbidden => rfl
  | enter child => rfl
  | close =>
    cases above with
    | nil => rfl
    | cons top rest => cases rest <;> rfl

theorem cut_shift (k : Nat) (b : Boundary) : (b.shift k).cut = k + b.cut := by
  obtain ⟨t, f⟩ := b
  cases t <;> rfl

/-! ## What is on offer -/

theorem offers_shift (g : Grammar) (pre text : List Char) (c : Config) :
    offers g (pre ++ text) (c.shift (size pre)) =
      (offers g text c).map (Boundary.shift (size pre)) := by
  have hmode : (c.shift (size pre)).stack.top.mode = c.stack.top.mode := (top_shift ..).1
  rw [offers_eq_filterMap, offers_eq_filterMap, hmode, List.map_filterMap]
  refine List.filterMap_congr fun w _ => ?_
  have hsearch := w.pattern.searchIn_append_add w.key.slot pre text c.position
  rw [Config.shift, hsearch, Option.map_map, Option.map_map]
  rfl

theorem Wins.shift (h : Wins bs b) (k : Nat) : Wins (bs.map (Boundary.shift k)) (b.shift k) := by
  apply h.map
  intro x y
  simp [Boundary.shift, Found.shift]

/-! ## What is given -/

theorem ownSpans_shift (job : Job) (pre : List Char) (stack : ModeStack) (stop : Nat) :
    ownSpans (job.behind pre) (stack.shift (size pre)).top (size pre + stop) =
      (ownSpans job stack.top stop).map (Span.shift (size pre)) := by
  obtain ⟨hmode, hstart⟩ := top_shift (size pre) stack
  rw [ownSpans, hmode, hstart, ownSpans, Job.behind]
  rw [between_append_add, Mode.classify_shift]

/-- The places of open modes lie in the text, so those of their diagnostics fit into 32 bits. -/
theorem unterminated_shift (hsize : job.size = size job.text) (hc : c.Nested job.text)
    (hlt : size pre + job.size < 2 ^ 32) :
    unterminated (job.behind pre) (c.stack.shift (size pre)) =
      (unterminated job c.stack).map (Diagnostic.shift (size pre)) := by
  have hopen : (c.stack.shift (size pre)).openFrames =
      c.stack.openFrames.map (Frame.shift (size pre)) := by
    simp [ModeStack.openFrames, ModeStack.shift]
  rw [unterminated, hopen, List.filterMap_map, unterminated, List.map_filterMap]
  refine List.filterMap_congr fun f hf => ?_
  have hentry : f.entry < c.position :=
    hc.start_lt _ (List.mem_map_of_mem (List.mem_reverse.1 hf))
  have hposition := hc.position.le_size
  have hfits : size pre + f.entry < 2 ^ 32 := by omega
  exact Diagnostic.unterminated?_shift (job.grammar.mode f.mode).className hfits hlt

theorem ending_shift (hsize : job.size = size job.text) (hc : c.Nested job.text)
    (hlt : size pre + job.size < 2 ^ 32) :
    ending (job.behind pre) (c.shift (size pre)) = (ending job c).shift (size pre) := by
  have hspans := ownSpans_shift job pre c.stack job.size
  have hdiagnostics := unterminated_shift hsize hc hlt
  unfold ending LexOutput.shift
  congr 1

/-- Where the machine stops, it stops behind another text, with the same result there. -/
theorem Stops.shift (h : Stops job c r) (hsize : job.size = size job.text)
    (hc : c.Nested job.text) (hlt : size pre + job.size < 2 ^ 32) :
    Stops (job.behind pre) (c.shift (size pre)) (shiftResult (size pre) r) := by
  have hoffers : offers (job.behind pre).grammar (job.behind pre).text (c.shift (size pre)) =
      (offers job.grammar job.text c).map (Boundary.shift (size pre)) := offers_shift ..
  cases h with
  | done hnone =>
    have hnone' :
        offers (job.behind pre).grammar (job.behind pre).text (c.shift (size pre)) = [] := by
      rw [hoffers, hnone]
      rfl
    have hend := Stops.done hnone'
    rwa [ending_shift hsize hc hlt] at hend
  | @forbidden f hw =>
    have hw' := hw.shift (size pre)
    rw [← hoffers] at hw'
    have hend := Stops.forbidden hw'
    have hslice : between (job.behind pre).text (f.shift (size pre)).start
        (f.shift (size pre)).stop = between job.text f.start f.stop := between_append_add ..
    have hmode : (c.shift (size pre)).stack.top.mode = c.stack.top.mode := (top_shift ..).1
    rw [hslice, hmode] at hend
    exact hend
  | tooDeep hw hdepth =>
    have hw' := hw.shift (size pre)
    rw [← hoffers] at hw'
    refine Stops.tooDeep hw' ?_
    rw [Config.shift, depth_shift]
    exact hdepth

/-! ## Transitions -/

/-- Where the machine stops, reading ends with its result. -/
theorem step_of_stops (hs : s.Sound job) (h : Stops job s.config r) :
    step job s = .ofResult r := by
  have hwin := (boundary_spec hs).1
  cases h with
  | done hnone =>
    have hb := hwin.trans (winner_eq_none_iff.2 hnone)
    simp only [step, hb]
    rfl
  | forbidden hw =>
    have hb := hwin.trans (winner_eq_some_iff.2 hw)
    simp only [step, hb]
    rfl
  | tooDeep hw hdepth =>
    have hb := hwin.trans (winner_eq_some_iff.2 hw)
    have hdepth' : job.maxDepth ≤ s.stack.depth := hdepth
    simp only [step, hb, if_pos hdepth']
    rfl

/-- Where the machine goes on, reading goes on with it. -/
theorem step_of_wins (hs : s.Sound job) (hw : Wins (offers job.grammar job.text s.config) b)
    (hne : b.transition ≠ .forbidden)
    (hdepth : ∀ child, b.transition = .enter child → s.stack.depth < job.maxDepth) :
    ∃ s', s'.config = s.config.after b ∧ s'.Sound job ∧
      step job s = .next (ownSpans job s.stack.top b.cut) (b.relevance job.grammar) s' := by
  rcases step_cases hs with ⟨r, hstop, -⟩ | ⟨b', s', -, hw', -, -, hafter, hs', hstep⟩
  · cases hstop with
    | done hnone => exact absurd hw.mem (by simp [hnone])
    | forbidden hw' => exact absurd (congrArg Boundary.transition (hw.unique hw')) hne
    | tooDeep hw' hdeep =>
      obtain rfl := hw.unique hw'
      exact absurd (hdepth _ rfl) (Nat.not_lt.2 hdeep)
  · obtain rfl := hw'.unique hw
    exact ⟨s', hafter, hs', hstep⟩

/-- A reader in a text, and one that stands at the same place behind another text. -/
structure Alike (job : Job) (pre : List Char) (s₀ s : State) : Prop where
  sound₀ : s₀.Sound job
  nested : s₀.config.Nested job.text
  sound : s.Sound (job.behind pre)
  config : s.config = s₀.config.shift (size pre)

/-- **Simulation.** Two readers that stand alike take the same transition. -/
theorem step_behind (h : Alike job pre s₀ s) (hsize : job.size = size job.text)
    (hlt : size pre + job.size < 2 ^ 32) :
    (∃ r, step job s₀ = .ofResult r ∧
        step (job.behind pre) s = .ofResult (shiftResult (size pre) r)) ∨
      ∃ spans relevance s₀' s', step job s₀ = .next spans relevance s₀' ∧
        step (job.behind pre) s = .next (spans.map (Span.shift (size pre))) relevance s' ∧
        Alike job pre s₀' s' := by
  obtain ⟨hs₀, hnested, hs, hconfig⟩ := h
  rcases step_cases hs₀ with
    ⟨r, hstop, hstep⟩ | ⟨b, s₀', -, hw, hne, hdepth, hafter, hs₀', hstep⟩
  · refine .inl ⟨r, hstep, step_of_stops hs ?_⟩
    rw [hconfig]
    exact hstop.shift hsize hnested hlt
  · have hoffers : offers (job.behind pre).grammar (job.behind pre).text s.config =
        (offers job.grammar job.text s₀.config).map (Boundary.shift (size pre)) := by
      rw [hconfig]
      exact offers_shift ..
    have hw' := hw.shift (size pre)
    rw [← hoffers] at hw'
    have hstack : s.stack = s₀.stack.shift (size pre) := congrArg Config.stack hconfig
    obtain ⟨s', hafter', hs', hstep'⟩ := step_of_wins hs hw' hne fun child hchild => by
      rw [hstack, depth_shift]
      exact hdepth child hchild
    refine .inr ⟨_, _, s₀', s', hstep, ?_, hs₀', ?_, hs', ?_⟩
    · rw [hstep', hstack, cut_shift, ownSpans_shift]
      rfl
    · rw [hafter]
      exact hnested.after hw hne
    · rw [hafter', hconfig, hafter, after_shift]

/-! ## Runs -/

theorem shiftResult_map_after (k : Nat) (spans : List Span) (relevance : Int)
    (r : Except LexError LexOutput) :
    shiftResult k (r.map (LexOutput.after spans relevance)) =
      (shiftResult k r).map (LexOutput.after (spans.map (Span.shift k)) relevance) := by
  cases r with
  | error e => rfl
  | ok out => simp [Except.map, shiftResult, LexOutput.after, LexOutput.shift]

theorem Reads.behind (hreads : Reads (step job) s₀ states r) (h : Alike job pre s₀ s)
    (hsize : job.size = size job.text) (hlt : size pre + job.size < 2 ^ 32) :
    ∃ states', Reads (step (job.behind pre)) s states' (shiftResult (size pre) r) := by
  induction hreads generalizing s with
  | last hend =>
    rcases step_behind h hsize hlt with ⟨r', hend₀, hend'⟩ | ⟨_, _, _, _, hnext, -, -⟩
    · obtain rfl := Outcome.ofResult_injective (hend₀.symm.trans hend)
      exact ⟨[s], .last hend'⟩
    · exact absurd (hend.symm.trans hnext) (Outcome.ofResult_ne_next _ _ _ _)
  | next hnext _ ih =>
    rcases step_behind h hsize hlt with ⟨r', hend, -⟩ | ⟨_, _, _, s', hnext₀, hnext', halike⟩
    · exact absurd (hend.symm.trans hnext) (Outcome.ofResult_ne_next _ _ _ _)
    · rw [hnext] at hnext₀
      cases hnext₀
      obtain ⟨states', hreads'⟩ := ih halike
      rw [shiftResult_map_after]
      exact ⟨s :: states', .next hnext' hreads'⟩

/-! ## The bottom of the stack -/

/-- The states that a run comes to, with the spans and the relevance that it has given before. -/
inductive Gives (job : Job) : State → List Span → Int → Prop
  | start : Gives job {} [] job.grammar.defaultMode.relevance
  | next {s s' : State} {spans spans' : List Span} {relevance relevance' : Int} :
      Gives job s spans relevance → step job s = .next spans' relevance' s' →
      Gives job s' (spans ++ spans') (relevance + relevance')

/-- The state after so many transitions, with the spans and the relevance given before it. -/
def given? (job : Job) : Nat → Option (State × List Span × Int)
  | 0 => some ({}, [], job.grammar.defaultMode.relevance)
  | n + 1 =>
    (given? job n).bind fun (s, spans, relevance) =>
      match step job s with
      | .next spans' relevance' s' => some (s', spans ++ spans', relevance + relevance')
      | _ => none

theorem gives_of_given? {n : Nat} {spans : List Span} {relevance : Int}
    (h : given? job n = some (s, spans, relevance)) : Gives job s spans relevance := by
  induction n generalizing s spans relevance with
  | zero =>
    cases h
    exact .start
  | succ n ih =>
    obtain ⟨⟨s', spans', relevance'⟩, hbefore, hlast⟩ := Option.bind_eq_some_iff.1 h
    dsimp only at hlast
    split at hlast
    · next hstep =>
      cases hlast
      exact (ih hbefore).next hstep
    · cases hlast

/-- The default mode was never entered, and where it alone is open, its own text that waits for
spans starts where reading stands. -/
structure Config.Grounded (c : Config) : Prop where
  mode : c.stack.bottom.mode = 0
  entry : c.stack.bottom.entry = 0
  textStart : c.stack.above = [] → c.stack.bottom.textStart = c.position

theorem grounded_start : ({} : Config).Grounded := ⟨rfl, rfl, fun _ => rfl⟩

theorem Config.Grounded.after (hc : c.Grounded) (hne : b.transition ≠ .forbidden) :
    (c.after b).Grounded := by
  obtain ⟨t, f⟩ := b
  obtain ⟨position, bottom, above⟩ := c
  cases t with
  | forbidden => exact absurd rfl hne
  | enter child => exact ⟨hc.mode, hc.entry, nofun⟩
  | close =>
    cases above with
    | nil => exact ⟨hc.mode, hc.entry, fun _ => rfl⟩
    | cons top rest =>
      cases rest with
      | nil => exact ⟨hc.mode, hc.entry, fun _ => rfl⟩
      | cons => exact ⟨hc.mode, hc.entry, nofun⟩

theorem Gives.grounded {spans : List Span} {relevance : Int} (h : Gives job s spans relevance) :
    s.Sound job ∧ s.config.Grounded := by
  induction h with
  | start => exact ⟨sound_start job, grounded_start⟩
  | next _ hstep ih =>
    obtain ⟨b, -, hne, hafter, hs'⟩ := move_of_next ih.1 hstep
    exact ⟨hs', hafter ▸ ih.2.after hne⟩

/-- Where only the default mode is open, the reader stands as one that starts there. -/
theorem config_eq_shift_start (hc : c.Grounded) (hbottom : c.stack.isAtBottom = true) :
    c = ({} : Config).shift c.position := by
  obtain ⟨position, ⟨mode, entry, textStart⟩, above⟩ := c
  obtain rfl : above = [] := List.isEmpty_iff.1 hbottom
  obtain ⟨rfl, rfl, htext⟩ := hc
  have htext : textStart = position := htext rfl
  subst htext
  rfl

/-- What a run gives in all is what it has given and what it gives from there on. -/
theorem Gives.reads {spans : List Span} {relevance : Int} (h : Gives job s spans relevance)
    (hreads : Reads (step job) s states r) :
    ∃ states', Reads (step job) {} states' (r.map
      (LexOutput.after spans (relevance - job.grammar.defaultMode.relevance))) := by
  induction h generalizing states r with
  | start =>
    have hsame : r.map (LexOutput.after [] (job.grammar.defaultMode.relevance -
        job.grammar.defaultMode.relevance)) = r := by
      cases r with
      | error e => rfl
      | ok out => simp [Except.map, LexOutput.after]
    rw [hsame]
    exact ⟨states, hreads⟩
  | @next s s' spans spans' relevance relevance' _ hstep ih =>
    obtain ⟨states', hreads'⟩ := ih (.next hstep hreads)
    have hsame : (r.map (LexOutput.after spans' relevance')).map
          (LexOutput.after spans (relevance - job.grammar.defaultMode.relevance)) =
        r.map (LexOutput.after (spans ++ spans')
          (relevance + relevance' - job.grammar.defaultMode.relevance)) := by
      cases r with
      | error e => rfl
      | ok out =>
        simp only [Except.map, LexOutput.after, List.append_assoc, Except.ok.injEq,
          LexOutput.mk.injEq, true_and, and_true]
        omega
    rw [hsame] at hreads'
    exact ⟨states', hreads'⟩

end Lexer

/-! ## Reading a text -/

namespace Grammar

open Lexer

variable {name : String} {d : GrammarDefinition} {g : Grammar}

/-- **Restart.** Where only the default mode is open, reading starts anew. Take a text of less than
2^32 octets, read without a budget of its own, and a state of the run in which nothing but the
default mode is open. From there on the run gives what reading the rest of the text on its own
gives: the same spans and diagnostics, moved to that place, or the same error, with its place moved.
The relevance of the default mode is counted once. -/
theorem lex_restart (h : compile name d = .ok g) {text : String} {options : LexOptions}
    (hsize : size text.toList < 2 ^ 32) (hnone : options.stepLimit = none)
    {s : State} {spans : List Span} {relevance : Int}
    (hs : Gives (g.job text options) s spans relevance) (hbottom : s.stack.isAtBottom = true) :
    ∃ rest, dropTo? text.toList s.position = some rest ∧
      g.lex text options =
        match g.lex (String.ofList rest) options with
        | .ok out =>
          .ok
            { spans := spans ++ out.spans.map (Span.shift s.position)
              relevance := relevance + out.relevance - g.defaultMode.relevance
              diagnostics := out.diagnostics.map (Diagnostic.shift s.position) }
        | .error e => .error (e.shift s.position) := by
  have hg := (bare_of_compile h).2
  obtain ⟨hsound, hgrounded⟩ := hs.grounded
  obtain ⟨rest, hrest⟩ := isPlace_iff_dropTo?.1 hsound.place
  obtain ⟨pre, htext, hpre⟩ := dropTo?_eq_some_iff.1 hrest
  have htext : text.toList = pre ++ rest := htext
  have hpre : size pre = s.position := hpre
  refine ⟨rest, hrest, ?_⟩
  -- The job is that of the rest behind the text before it.
  have hjob : g.job text options = (g.job (String.ofList rest) options).behind pre := by
    simp [job, Job.behind, htext]
  have hrestSize : size rest + size pre = size text.toList := by
    rw [htext, size_append, Nat.add_comm]
  obtain ⟨states, r, hreads⟩ := exists_reads hg (follows_step (g.job (String.ofList rest) options))
    (sound_start _) rfl
  have halike : Alike (g.job (String.ofList rest) options) pre {} s := by
    refine ⟨sound_start _, nested_start _, hjob ▸ hsound, ?_⟩
    rw [hpre]
    exact config_eq_shift_start hgrounded hbottom
  have hlt : size pre + (g.job (String.ofList rest) options).size < 2 ^ 32 := by
    simp only [job, String.toList_ofList]
    omega
  obtain ⟨states', hreads'⟩ := hreads.behind halike rfl hlt
  rw [← hjob] at hreads'
  obtain ⟨states'', hreads''⟩ := hs.reads hreads'
  rw [lex_eq_map_of_reads hg hnone hreads'', lex_eq_map_of_reads hg hnone hreads, hpre]
  cases r with
  | error e => rfl
  | ok out =>
    simp only [Except.map, shiftResult, LexOutput.after, LexOutput.shift, withDefault, job,
      List.nil_append, Except.ok.injEq, LexOutput.mk.injEq, true_and, and_true]
    omega

/-- A block is closed behind an accented letter; what follows is read as a text of its own. -/
theorem lex_restart_blocks :
    ∃ g s, compile "blocks" blocks = .ok g ∧
      Gives (g.job "é\x7bif\x7dif\x7b" {}) s [⟨"", "é", 0⟩, ⟨"block", "\x7bif\x7d", 2⟩] 2 ∧
      s.stack.isAtBottom = true ∧ s.position = 6 ∧
      dropTo? "é\x7bif\x7dif\x7b".toList 6 = some "if\x7b".toList ∧
      (g.lex "if\x7b" {}).map (·.spans) = .ok [⟨"keyword", "if", 0⟩, ⟨"block", "\x7b", 2⟩] ∧
      (g.lex "é\x7bif\x7dif\x7b" {}).map (·.spans) =
        .ok [⟨"", "é", 0⟩, ⟨"block", "\x7bif\x7d", 2⟩, ⟨"keyword", "if", 6⟩,
          ⟨"block", "\x7b", 8⟩] := by
  have hrun : ((compile "blocks" blocks).toOption.bind fun g =>
      (given? (g.job "é\x7bif\x7dif\x7b" {}) 2).map fun (s, spans, relevance) =>
        (s.position, s.stack.isAtBottom, spans, relevance,
          (g.lex "if\x7b" {}).toOption.map (·.spans))) =
      some (6, true, [⟨"", "é", 0⟩, ⟨"block", "\x7bif\x7d", 2⟩], 2,
        some [⟨"keyword", "if", 0⟩, ⟨"block", "\x7b", 2⟩]) := by
    decide +kernel
  obtain ⟨g, hg, hgiven⟩ := Option.bind_eq_some_iff.1 hrun
  obtain ⟨⟨s, spans, relevance⟩, hgiven, hvalues⟩ := Option.map_eq_some_iff.1 hgiven
  simp only [Prod.mk.injEq] at hvalues
  obtain ⟨hposition, hbottom, rfl, rfl, hfresh⟩ := hvalues
  obtain ⟨out, hout, hspans⟩ := Option.map_eq_some_iff.1 hfresh
  rw [Except.toOption_eq_some_iff] at hg hout
  have hgives := gives_of_given? hgiven
  have hdrop : dropTo? "é\x7bif\x7dif\x7b".toList 6 = some "if\x7b".toList := by decide
  obtain ⟨rest, hrest, hlex⟩ := lex_restart hg (by decide) rfl hgives hbottom
  rw [hposition, hdrop] at hrest
  cases hrest
  refine ⟨g, s, hg, hgives, hbottom, hposition, hdrop, ?_, ?_⟩
  · rw [hout]
    exact congrArg Except.ok hspans
  · rw [hlex, String.ofList_toList, hout]
    simp only [Except.map, hspans, hposition]
    rfl

end Grammar

end Tint
