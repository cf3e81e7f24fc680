import Tint.Proofs.Restart

/-!
# The stack of open modes

**Invariant (`Config.Stacked`).** Wherever reading stands, the default mode is at the bottom of the
stack and nowhere else, every other open mode is contained in the one below it, and the modes were
opened one behind the other, all of them before the place where reading stands. There are never more
of them than may be.

**Transition (`Config.Stacked.after`).** Opening a mode adds a frame, and closing one takes the last
frame away. After that the own text of the frame below starts anew, but this changes neither its
mode nor where it was opened (`map_frames_close`), so what has been said of the other frames still
holds. A mode that is opened has a pattern that opens it, so it is not the default mode; a mode that
is closed has one that closes it, so it is not the one at the bottom.

**Theorem (`stacked_of_reaches`).** The invariant holds in every state that a run comes to, and the
own text of the mode on top starts where the last transition says.
-/

namespace Tint

namespace ModeStack

theorem bottom_close (s : ModeStack) (place : Nat) :
    (s.pop.2.setTextStart place).bottom.mode = s.bottom.mode ∧
      (s.pop.2.setTextStart place).bottom.entry = s.bottom.entry := by
  obtain ⟨bottom, above⟩ := s
  rcases above with _ | ⟨top, _ | ⟨next, rest⟩⟩
  · exact ⟨rfl, rfl⟩
  · exact ⟨rfl, rfl⟩
  · exact ⟨rfl, rfl⟩

/-- Closing a mode takes the last frame away. Where own text starts plays no part in `φ`. -/
theorem map_openFrames_close {α : Type} (φ : Frame → α)
    (hφ : ∀ f n, φ { f with textStart := n } = φ f) (s : ModeStack) (place : Nat) :
    (s.pop.2.setTextStart place).openFrames.map φ = (s.openFrames.map φ).dropLast := by
  obtain ⟨bottom, above⟩ := s
  rcases above with _ | ⟨top, _ | ⟨next, rest⟩⟩
  · rfl
  · rfl
  · simp [pop, setTextStart, openFrames, hφ]

theorem map_frames_close {α : Type} (φ : Frame → α)
    (hφ : ∀ f n, φ { f with textStart := n } = φ f) (s : ModeStack) (place : Nat)
    (h : s.above ≠ []) :
    (s.pop.2.setTextStart place).frames.map φ = (s.frames.map φ).dropLast := by
  obtain ⟨bottom, above⟩ := s
  rcases above with _ | ⟨top, _ | ⟨next, rest⟩⟩
  · exact absurd rfl h
  · simp [pop, setTextStart, frames, openFrames, hφ]
  · simp [pop, setTextStart, frames, openFrames, hφ, List.dropLast_cons_of_ne_nil]

theorem depth_close (s : ModeStack) (place : Nat) (h : s.above ≠ []) :
    (s.pop.2.setTextStart place).depth + 1 = s.depth := by
  obtain ⟨bottom, above⟩ := s
  cases above with
  | nil => exact absurd rfl h
  | cons top rest => simp [pop, depth]

@[simp] theorem openFrames_push (s : ModeStack) (mode entry : Nat) :
    (s.push mode entry).openFrames = s.openFrames ++ [⟨mode, entry, entry⟩] := by
  simp [push, openFrames]

end ModeStack

namespace Lexer

open Text

variable {g : Grammar} {text : List Char} {b : Boundary} {c c' : Config} {job : Job}
  {maxDepth n : Nat} {s s' : State} {spans : List Span} {relevance : Int}

/-! ## The invariant -/

/-- How the open modes lie on the stack, with reading at a place of the text. -/
structure Config.Stacked (g : Grammar) (text : List Char) (maxDepth : Nat) (c : Config) : Prop where
  /-- The default mode is at the bottom, open from the start of the text on. -/
  bottom : c.stack.bottom.mode = 0 ∧ c.stack.bottom.entry = 0
  ne_default : ∀ f ∈ c.stack.openFrames, f.mode ≠ 0
  contained : c.stack.frames.IsChain fun f f' => f'.mode ∈ (g.mode f.mode).contains
  entry : ∀ f ∈ c.stack.openFrames, IsPlace text f.entry ∧ f.entry < c.position
  ascending : c.stack.openFrames.Pairwise fun f f' => f.entry < f'.entry
  position : IsPlace text c.position ∧ c.position ≤ size text
  depth : 1 ≤ c.stack.depth ∧ c.stack.depth ≤ max 1 maxDepth

theorem stacked_start (g : Grammar) (text : List Char) (maxDepth : Nat) :
    ({} : Config).Stacked g text maxDepth where
  bottom := ⟨rfl, rfl⟩
  ne_default := nofun
  contained := .singleton _
  entry := nofun
  ascending := .nil
  position := ⟨isPlace_zero text, Nat.zero_le _⟩
  depth := ⟨Nat.le_refl 1, Nat.le_max_left 1 maxDepth⟩

theorem Config.Stacked.enter {child : Nat} {f : Found}
    (hg : g.defaultMode.beginPattern = none) (hc : c.Stacked g text maxDepth)
    (hw : Wins (offers g text c) ⟨.enter child, f⟩) (hdepth : c.stack.depth < maxDepth) :
    (c.after ⟨.enter child, f⟩).Stacked g text maxDepth := by
  obtain ⟨hle, ⟨w, hslice⟩, hlt⟩ := offers_spec hw.mem
  obtain ⟨hcontained, p, hopener, -⟩ := enter_of_offer hw.mem
  have hnew : f.start < f.stop := hlt nofun
  have hplace := isPlace_right_of_slice? hslice
  simp only [Config.after]
  refine ⟨hc.bottom, ?_, ?_, ?_, ?_, ⟨hplace, hplace.le_size⟩, ?_⟩
  · intro f' hf'
    rw [ModeStack.openFrames_push, List.mem_append, List.mem_singleton] at hf'
    rcases hf' with hf' | rfl
    · exact hc.ne_default f' hf'
    -- the default mode has no pattern that opens it
    · intro hzero
      dsimp only at hzero
      rw [hzero] at hopener
      cases hg.symm.trans hopener
  · rw [ModeStack.frames_push, List.isChain_append]
    refine ⟨hc.contained, .singleton _, ?_⟩
    intro top htop f' hf'
    rw [ModeStack.getLast?_frames] at htop
    cases htop
    cases hf'
    exact hcontained
  · intro f' hf'
    rw [ModeStack.openFrames_push, List.mem_append, List.mem_singleton] at hf'
    rcases hf' with hf' | rfl
    · obtain ⟨hentry, hbefore⟩ := hc.entry f' hf'
      exact ⟨hentry, Nat.lt_of_lt_of_le hbefore (Nat.le_trans hle (Nat.le_of_lt hnew))⟩
    · exact ⟨isPlace_left_of_slice? hslice, hnew⟩
  · rw [ModeStack.openFrames_push, List.pairwise_append]
    refine ⟨hc.ascending, List.pairwise_singleton _ _, ?_⟩
    intro f' hf' new hnew'
    rw [List.mem_singleton.1 hnew']
    exact Nat.lt_of_lt_of_le (hc.entry f' hf').2 hle
  · rw [ModeStack.depth_push]
    omega

theorem Config.Stacked.close {f : Found} (hg : g.defaultMode.endPattern = none)
    (hc : c.Stacked g text maxDepth) (hw : Wins (offers g text c) ⟨.close, f⟩) :
    (c.after ⟨.close, f⟩).Stacked g text maxDepth ∧
      (c.after ⟨.close, f⟩).stack.depth + 1 = c.stack.depth := by
  obtain ⟨hle, ⟨w, hslice⟩, -⟩ := offers_spec hw.mem
  have hplace := isPlace_right_of_slice? hslice
  have hstop := size_of_slice? hslice
  have habove : c.stack.above ≠ [] := by
    intro hnil
    exact ne_close_of_bare hg hc.bottom.1 hnil hw.mem rfl
  -- each part of the invariant is about the modes alone or about the places alone
  have hmode := ModeStack.map_openFrames_close Frame.mode (fun _ _ => rfl) c.stack f.stop
  have hentry := ModeStack.map_openFrames_close Frame.entry (fun _ _ => rfl) c.stack f.stop
  have hframes := ModeStack.map_frames_close Frame.mode (fun _ _ => rfl) c.stack f.stop habove
  have hdepth := ModeStack.depth_close c.stack f.stop habove
  have hdeep := hc.depth.2
  obtain ⟨hbottom, hbottom'⟩ := ModeStack.bottom_close c.stack f.stop
  dsimp only at hle hstop
  simp only [Config.after]
  refine ⟨⟨?_, ?_, ?_, ?_, ?_, ⟨hplace, hplace.le_size⟩, ?_⟩, hdepth⟩
  · rw [hbottom, hbottom']
    exact hc.bottom
  · have hall : ∀ m ∈ c.stack.openFrames.map Frame.mode, m ≠ 0 :=
      List.forall_mem_map.2 hc.ne_default
    refine (List.forall_mem_map (P := fun m => m ≠ 0)).1 ?_
    rw [hmode]
    intro m hm
    exact hall m (List.dropLast_subset _ hm)
  · have hchain := (List.isChain_map (R := fun i j => j ∈ (g.mode i).contains) Frame.mode).2
      hc.contained
    refine (List.isChain_map (R := fun i j => j ∈ (g.mode i).contains) Frame.mode).1 ?_
    rw [hframes]
    exact hchain.dropLast
  · have hall : ∀ e ∈ c.stack.openFrames.map Frame.entry, IsPlace text e ∧ e < c.position :=
      List.forall_mem_map.2 hc.entry
    refine (List.forall_mem_map (P := fun e => IsPlace text e ∧ e < f.stop)).1 ?_
    rw [hentry]
    intro e he
    obtain ⟨hplace', hbefore⟩ := hall e (List.dropLast_subset _ he)
    exact ⟨hplace', by omega⟩
  · have hpairs := (List.pairwise_map (R := fun e e' => e < e')).2 hc.ascending
    refine (List.pairwise_map (R := fun e e' => e < e')).1 ?_
    rw [hentry]
    exact hpairs.sublist (List.dropLast_sublist _)
  · refine ⟨Nat.succ_pos _, ?_⟩
    dsimp only
    omega

theorem Config.Stacked.after
    (hg : g.defaultMode.beginPattern = none ∧ g.defaultMode.endPattern = none)
    (hc : c.Stacked g text maxDepth) (hw : Wins (offers g text c) b)
    (hne : b.transition ≠ .forbidden)
    (hdepth : ∀ child, b.transition = .enter child → c.stack.depth < maxDepth) :
    (c.after b).Stacked g text maxDepth := by
  obtain ⟨t, f⟩ := b
  cases t with
  | forbidden => exact absurd rfl hne
  | close => exact (hc.close hg.2 hw).1
  | enter child => exact hc.enter hg.1 hw (hdepth child rfl)

/-! ## States on the way -/

/-- The transition has closed a mode: the own text of the one below goes on where reading stands. -/
structure Closes (job : Job) (s s' : State) : Prop where
  boundary : ∃ f, (s.boundary job).1 = some ⟨.close, f⟩
  depth : s'.stack.depth + 1 = s.stack.depth
  textStart : s'.stack.top.textStart = s'.position

/-- The transition has opened a mode: its own text starts with the match that opens it, which lies
between the place where the mode was opened and the place where reading stands. -/
structure Opens (job : Job) (s s' : State) : Prop where
  boundary : (s.boundary job).1 =
    some ⟨.enter s'.stack.top.mode, ⟨s'.stack.top.entry, s'.position⟩⟩
  depth : s'.stack.depth = s.stack.depth + 1
  textStart : s'.stack.top.textStart = s'.stack.top.entry
  slice : ∃ w, slice? job.text s'.stack.top.entry s'.position = some w ∧ w ≠ []

theorem closes_or_opens (hg : job.grammar.defaultMode.endPattern = none) (hs : s.Sound job)
    (hc : s.config.Stacked job.grammar job.text job.maxDepth)
    (h : step job s = .next spans relevance s') :
    s.position ≤ s'.position ∧ (Closes job s s' ∨ Opens job s s') := by
  obtain ⟨b, hb, hw, hne, -, hafter, -⟩ := boundary_of_next hs h
  obtain ⟨hle, hcut, -⟩ := cut_spec hw hne
  obtain ⟨-, ⟨w, hslice⟩, hlt⟩ := offers_spec hw.mem
  have hposition : s'.position = (s.config.after b).position := congrArg Config.position hafter
  have hstack : s'.stack = (s.config.after b).stack := congrArg Config.stack hafter
  refine ⟨hposition ▸ Nat.le_trans hle hcut, ?_⟩
  obtain ⟨t, f⟩ := b
  cases t with
  | forbidden => exact absurd rfl hne
  | close =>
    refine .inl ⟨⟨f, hb⟩, ?_, ?_⟩
    · rw [hstack]
      exact (hc.close hg hw).2
    · rw [hstack, hposition]
      exact textStart_after s.config hne
  | enter child =>
    have htop : s'.stack.top = ⟨child, f.start, f.start⟩ := by
      rw [hstack]
      exact ModeStack.top_push s.stack child f.start
    have hstop : s'.position = f.stop := hposition
    refine .inr ⟨?_, ?_, ?_, ?_⟩
    · rw [htop, hstop]
      exact hb
    · rw [hstack]
      exact ModeStack.depth_push s.stack child f.start
    · rw [htop]
    · rw [htop, hstop]
      refine ⟨w, hslice, ?_⟩
      rintro rfl
      have hsize := size_of_slice? hslice
      have hnew : f.start < f.stop := hlt nofun
      simp at hsize
      omega

theorem stacked_of_reaches (hg : job.grammar.defaultMode.beginPattern = none ∧
    job.grammar.defaultMode.endPattern = none) (h : Reaches job n s) :
    s.config.Stacked job.grammar job.text job.maxDepth := by
  induction h with
  | start => exact stacked_start job.grammar job.text job.maxDepth
  | next hreach hstep ih =>
    obtain ⟨b, -, hw, hne, hdepth, hafter, -⟩ := boundary_of_next (reaches_spec hreach).1 hstep
    rw [hafter]
    exact ih.after hg hw hne hdepth

theorem reaches_of_given? (h : given? job n = some (s, spans, relevance)) : Reaches job n s := by
  induction n generalizing s spans relevance with
  | zero =>
    cases h
    exact .start
  | succ n ih =>
    obtain ⟨⟨s', spans', relevance'⟩, hbefore, hlast⟩ := Option.bind_eq_some_iff.1 h
    dsimp only at hlast
    split at hlast
    · next hstep =>
      cases hlast
      exact (ih hbefore).next hstep
    · cases hlast

end Lexer

/-! ## Reading a text -/

namespace Grammar

open Lexer

/-- **The stack of open modes.** In every state that reading a text comes to, the open modes lie on
the stack as `Config.Stacked` says. At the start the own text of the default mode starts where
reading stands. A transition never goes back, and either it closes a mode, and the own text of the
mode below starts where reading stands, or it opens one, and its own text starts where it was opened
and holds the match that opened it, which is not empty. -/
theorem open_modes_stacked {name : String} {d : GrammarDefinition} {g : Grammar}
    (h : compile name d = .ok g) {text : String} {options : LexOptions} {n : Nat} {s : State}
    (hs : Reaches (g.job text options) n s) :
    s.config.Stacked g text.toList options.maxDepth ∧
      (n = 0 → s.stack.top.textStart = s.position) ∧
      ∀ spans relevance s', step (g.job text options) s = .next spans relevance s' →
        s.position ≤ s'.position ∧
          (Closes (g.job text options) s s' ∨ Opens (g.job text options) s s') := by
  have hg := bare_of_compile h
  have hstacked : s.config.Stacked g text.toList options.maxDepth := stacked_of_reaches hg hs
  refine ⟨hstacked, ?_, ?_⟩
  · rintro rfl
    cases hs
    rfl
  · intro spans relevance s' hstep
    exact closes_or_opens hg.2 (reaches_spec hs).1 hstacked hstep

/-- Two blocks have been opened and one of them closed, as deeply nested as may be. The next
transition opens another one. -/
theorem open_modes_stacked_blocks :
    ∃ g s s' spans relevance, compile "blocks" blocks = .ok g ∧
      Reaches (g.job "é\x7b\x7b\x7d\x7b" { maxDepth := 3 }) 3 s ∧
      step (g.job "é\x7b\x7b\x7d\x7b" { maxDepth := 3 }) s = .next spans relevance s' ∧
      s.stack.frames = [⟨0, 0, 0⟩, ⟨1, 2, 5⟩] ∧ s.position = 5 ∧
      s'.stack.frames = [⟨0, 0, 0⟩, ⟨1, 2, 5⟩, ⟨1, 5, 5⟩] ∧ s'.position = 6 ∧
      s.config.Stacked g "é\x7b\x7b\x7d\x7b".toList 3 ∧
      Opens (g.job "é\x7b\x7b\x7d\x7b" { maxDepth := 3 }) s s' := by
  have hrun : ((compile "blocks" blocks).toOption.bind fun g =>
      (given? (g.job "é\x7b\x7b\x7d\x7b" { maxDepth := 3 }) 3).bind fun before =>
        (given? (g.job "é\x7b\x7b\x7d\x7b" { maxDepth := 3 }) 4).map fun after =>
          (before.1.stack.frames, before.1.position, after.1.stack.frames, after.1.position)) =
      some ([⟨0, 0, 0⟩, ⟨1, 2, 5⟩], 5, [⟨0, 0, 0⟩, ⟨1, 2, 5⟩, ⟨1, 5, 5⟩], 6) := by
    decide +kernel
  obtain ⟨g, hg, hgiven⟩ := Option.bind_eq_some_iff.1 hrun
  obtain ⟨⟨s, givenSpans, givenRelevance⟩, hgiven, hnext⟩ := Option.bind_eq_some_iff.1 hgiven
  obtain ⟨after, hgiven', hvalues⟩ := Option.map_eq_some_iff.1 hnext
  simp only [Prod.mk.injEq] at hvalues
  obtain ⟨hframes, hposition, hframes', hposition'⟩ := hvalues
  rw [Except.toOption_eq_some_iff] at hg
  have hreach := reaches_of_given? hgiven
  obtain ⟨hstacked, -, hmoves⟩ := open_modes_stacked hg hreach
  rw [given?, hgiven, Option.bind_some] at hgiven'
  dsimp only at hgiven'
  split at hgiven'
  · next spans relevance s' hstep =>
    cases hgiven'
    refine ⟨g, s, s', spans, relevance, hg, hreach, hstep, hframes, hposition, hframes',
      hposition', hstacked, ?_⟩
    have hdepth : s.stack.depth = 2 := by rw [← ModeStack.length_frames, hframes]; rfl
    have hdepth' : s'.stack.depth = 3 := by rw [← ModeStack.length_frames, hframes']; rfl
    rcases (hmoves spans relevance s' hstep).2 with hcloses | hopens
    · have := hcloses.depth
      omega
    · exact hopens
  · cases hgiven'

end Grammar

end Tint
