import Tint.Proofs.Classification
import Tint.Proofs.Lockstep

/-!
# The spans of a text tile it

The own text of a mode becomes spans at three kinds of place: where a nested mode is opened, where
the mode is closed, and at the end of the text. Whatever mode is open then, its own text that waits
for spans starts where the last spans stopped. That is the invariant (`Config.Ready`): one move
makes spans of the stretch up to its cut, and the next own text starts at that cut, in the mode that
was opened or in the one below the mode that was closed.

**Run (`along_lays`).** So the spans of a run are one piece, from where the waiting text started to
the end of the text.

**Theorem (`lex_tiles`).** Reading that succeeds tiles the text.
-/

namespace Tint

namespace Lexer

open Text

variable {g : Grammar} {text own : List Char} {b : Boundary} {bs : List Boundary} {c c' : Config}
  {job : Job}

/-! ## One move -/

/-- The own text that waits for spans starts at a place of the text, and not ahead of reading. -/
structure Config.Ready (text : List Char) (c : Config) : Prop where
  position : IsPlace text c.position
  textStart : IsPlace text c.stack.top.textStart
  textStart_le : c.stack.top.textStart ≤ c.position

theorem ready_start (text : List Char) : ({} : Config).Ready text :=
  ⟨isPlace_zero text, isPlace_zero text, Nat.le_refl _⟩

theorem textStart_after (c : Config) (hne : b.transition ≠ .forbidden) :
    (c.after b).stack.top.textStart = b.cut := by
  obtain ⟨t, f⟩ := b
  cases t with
  | forbidden => exact absurd rfl hne
  | close => simp [Config.after, Boundary.cut]
  | enter child => simp [Config.after, Boundary.cut]

/-- The cut of a winner is a place between where reading stands and where it goes on. -/
theorem cut_spec (hw : Wins (offers g text c) b) (hne : b.transition ≠ .forbidden) :
    c.position ≤ b.cut ∧ b.cut ≤ (c.after b).position ∧ IsPlace text b.cut := by
  obtain ⟨hle, ⟨w, hslice⟩, -⟩ := offers_spec hw.mem
  have hstop := size_of_slice? hslice
  obtain ⟨t, f⟩ := b
  dsimp only at hle hslice hstop
  cases t with
  | forbidden => exact absurd rfl hne
  | close =>
    simp only [Boundary.cut, Config.after]
    exact ⟨by omega, Nat.le_refl _, isPlace_right_of_slice? hslice⟩
  | enter child =>
    simp only [Boundary.cut, Config.after]
    exact ⟨hle, by omega, isPlace_left_of_slice? hslice⟩

theorem Config.Ready.after (hc : c.Ready text) (hw : Wins (offers g text c) b)
    (hne : b.transition ≠ .forbidden) : (c.after b).Ready text := by
  obtain ⟨-, hle, hcut⟩ := cut_spec hw hne
  refine ⟨isPlace_after hc.position hw, ?_, ?_⟩
  · rwa [textStart_after c hne]
  · rwa [textStart_after c hne]

/-! ## Runs -/

theorem ownSpans_lays {frame : Frame} {stop : Nat}
    (h : slice? job.text frame.textStart stop = some own) :
    Lays own frame.textStart (ownSpans job frame stop) := by
  rw [ownSpans, between_of_slice? h]
  exact Mode.classify_lays ..

/-- The spans along a path, with those of the rest of the text at its end, are one piece from where
the waiting text starts to the end of the text. -/
theorem along_lays (job : Job) (hsize : job.size = size job.text) (h : Path g job.text c bs c')
    (hc : c.Ready job.text) :
    ∃ own, slice? job.text c.stack.top.textStart job.size = some own ∧
      Lays own c.stack.top.textStart (along job c bs (ending job c')).spans := by
  induction h with
  | nil c =>
    obtain ⟨own, hown⟩ := exists_slice? hc.textStart (isPlace_size job.text) hc.textStart.le_size
    rw [← hsize] at hown
    refine ⟨own, hown, ?_⟩
    exact ownSpans_lays hown
  | @cons c c' b bs hw hne _ ih =>
    obtain ⟨hle, -, hcut⟩ := cut_spec hw hne
    obtain ⟨own, hown⟩ := exists_slice? hc.textStart hcut (Nat.le_trans hc.textStart_le hle)
    obtain ⟨later, hlater, hlays⟩ := ih (hc.after hw hne)
    rw [textStart_after c hne] at hlater hlays
    refine ⟨own ++ later, slice?_append hown hlater, (ownSpans_lays hown).append ?_⟩
    rwa [size_of_slice? hown]

end Lexer

/-! ## Reading a text -/

namespace Grammar

open Lexer Text

theorem lays_of_lex_eq_ok {g : Grammar} {text : String} {options : LexOptions} {out : LexOutput}
    (h : g.lex text options = .ok out) : Lays text.toList 0 out.spans := by
  obtain ⟨c, hpath, -, rfl⟩ := path_of_lex_eq_ok h
  obtain ⟨own, hown, hlays⟩ := along_lays (g.job text options) rfl hpath (ready_start text.toList)
  obtain rfl : text.toList = own :=
    Option.some.inj ((slice?_zero_size text.toList).symm.trans hown)
  exact hlays

/-- **The spans of a text tile it.** If reading succeeds, under whatever limits, the first span
starts at the start of the text, each starts where the one before it stops, and the last stops at
the end; none is empty, all start and stop at places of the text, and each holds the text between
its places. So put together they are the text. -/
theorem lex_tiles {g : Grammar} {text : String} {options : LexOptions} {out : LexOutput}
    (h : g.lex text options = .ok out) : Tiles text out.spans := by
  obtain ⟨c, hpath, -, rfl⟩ := path_of_lex_eq_ok h
  obtain ⟨own, hown, hlays⟩ := along_lays (g.job text options) rfl hpath (ready_start text.toList)
  obtain rfl : text.toList = own :=
    Option.some.inj ((slice?_zero_size text.toList).symm.trans hown)
  exact hlays.tiles

/-- A keyword, a block within a block, and a block that is never closed. -/
theorem lex_tiles_blocks :
    ∃ g out, compile "blocks" blocks = .ok g ∧ g.lex "if é\x7bif\x7b\x7d\x7d\x7b" {} = .ok out ∧
      out.spans = [⟨"keyword", "if", 0⟩, ⟨"", " é", 2⟩, ⟨"block", "\x7bif", 5⟩,
        ⟨"block", "\x7b\x7d", 8⟩, ⟨"block", "\x7d", 10⟩, ⟨"block", "\x7b", 11⟩] ∧
      Tiles "if é\x7bif\x7b\x7d\x7d\x7b" out.spans := by
  have hrun : (((compile "blocks" blocks).toOption.bind fun g =>
      (g.lex "if é\x7bif\x7b\x7d\x7d\x7b" {}).toOption).map (·.spans)) =
        some [⟨"keyword", "if", 0⟩, ⟨"", " é", 2⟩, ⟨"block", "\x7bif", 5⟩,
          ⟨"block", "\x7b\x7d", 8⟩, ⟨"block", "\x7d", 10⟩, ⟨"block", "\x7b", 11⟩] := by
    decide +kernel
  obtain ⟨out, hout, hspans⟩ := Option.map_eq_some_iff.1 hrun
  obtain ⟨g, hg, hlex⟩ := Option.bind_eq_some_iff.1 hout
  rw [Except.toOption_eq_some_iff] at hg hlex
  exact ⟨g, out, hg, hlex, hspans, lex_tiles hlex⟩

end Grammar

end Tint
