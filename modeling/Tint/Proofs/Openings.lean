import Tint.Proofs.Depth
import Mathlib.Algebra.Ring.Int.Defs
import Mathlib.Data.List.DropRight

/-!
# Modes that are opened, and modes that are left open

The trace of a run says which modes were opened on the way, and by which matches
(`Boundary.opening?`). The matches are not empty and lie one behind the other
(`Path.openings_spec`).

**Left open (`leftOpen`).** A mode is closed as soon as, behind its opening, one mode more has been
closed than opened (`ClosedBy`). This is said of the trace alone, and the stack is not mentioned.

**Frames (`Path.openFrames_eq`).** Behind a path, the frames that lay on the stack at its start have
been taken off from the top as far as the path falls (`fall`), and above those that are left lie the
modes that the path leaves open. So at the end of a run from the start, the open frames are just the
modes left open.

**Theorem (`diagnostics_report_leftOpen`).** The diagnostics report the modes left open, one by one
and outermost first.
-/

namespace Tint

namespace Lexer

open Text

variable {g : Grammar} {text : List Char} {b : Boundary} {bs : List Boundary} {c c' : Config}

/-! ## Openings -/

/-- A mode that is opened, and the match that opens it. -/
structure Opening where
  mode : Nat
  token : Found
deriving DecidableEq, Repr

/-- What a boundary opens. -/
def Boundary.opening? (b : Boundary) : Option Opening :=
  match b.transition with
  | .enter child => some ⟨child, b.found⟩
  | _ => none

/-- The modes that a path opens, with the matches that open them. -/
def openings (bs : List Boundary) : List Opening := bs.filterMap Boundary.opening?

theorem openings_cons (b : Boundary) (bs : List Boundary) :
    openings (b :: bs) = b.opening?.toList ++ openings bs := by
  rw [openings, List.filterMap_cons]
  cases b.opening? <;> rfl

/-- The match is found by what opens the mode. It is not empty, and lies in a stretch of the
text. -/
structure Opening.Sound (g : Grammar) (text : List Char) (start stop : Nat) (o : Opening) :
    Prop where
  found : ∃ p place, (g.mode o.mode).beginPattern = some p ∧
    p.findNonEmpty text place = some o.token
  start_le : start ≤ o.token.start
  lt : o.token.start < o.token.stop
  le_stop : o.token.stop ≤ stop

theorem Opening.Sound.mono {start stop start' stop' : Nat} {o : Opening}
    (h : o.Sound g text start stop) (hstart : start' ≤ start) (hstop : stop ≤ stop') :
    o.Sound g text start' stop' :=
  ⟨h.found, hstart.trans h.start_le, h.lt, h.le_stop.trans hstop⟩

theorem position_le_after (hw : Wins (offers g text c) b) : c.position ≤ (c.after b).position := by
  obtain ⟨hle, ⟨w, hslice⟩, -⟩ := offers_spec hw.mem
  have hstop : b.found.start ≤ b.found.stop := size_of_slice? hslice ▸ Nat.le_add_right _ _
  unfold Config.after
  split
  · exact Nat.le_refl _
  · exact hle.trans hstop
  · exact hle.trans hstop

theorem Path.position_le (h : Path g text c bs c') : c.position ≤ c'.position := by
  induction h with
  | nil => exact Nat.le_refl _
  | cons hw _ _ ih => exact (position_le_after hw).trans ih

theorem sound_of_wins {o : Opening} (hw : Wins (offers g text c) b) (ho : b.opening? = some o) :
    o.Sound g text c.position (c.after b).position := by
  obtain ⟨hle, -, hlt⟩ := offers_spec hw.mem
  obtain ⟨t, f⟩ := b
  cases t with
  | forbidden => cases ho
  | close => cases ho
  | enter child =>
    cases ho
    obtain ⟨-, p, hp, hfound⟩ := enter_of_offer hw.mem
    exact ⟨⟨p, c.position, hp, hfound⟩, hle, hlt nofun, Nat.le_refl _⟩

/-- The matches that open modes on a path lie one behind the other. -/
theorem Path.openings_spec (h : Path g text c bs c') :
    (∀ o ∈ openings bs, o.Sound g text c.position c'.position) ∧
      (openings bs).Pairwise fun o o' => o.token.stop ≤ o'.token.start := by
  induction h with
  | nil => exact ⟨nofun, .nil⟩
  | @cons c _ b bs hw hne htail ih =>
    obtain ⟨hall, hpairs⟩ := ih
    have hafter : ∀ o ∈ openings bs, o.Sound g text c.position _ := fun o ho =>
      (hall o ho).mono (position_le_after hw) (Nat.le_refl _)
    rw [openings_cons]
    cases ho : b.opening? with
    | none => exact ⟨hafter, hpairs⟩
    | some o =>
      have hsound := sound_of_wins hw ho
      refine ⟨List.forall_mem_cons.2 ⟨hsound.mono (Nat.le_refl _) htail.position_le, hafter⟩,
        List.pairwise_cons.2 ⟨fun o' ho' => ?_, hpairs⟩⟩
      exact hsound.le_stop.trans (hall o' ho').start_le

/-! ## Modes left open -/

/-- How many modes more are open behind a boundary than before it. -/
def Boundary.change (b : Boundary) : Int :=
  match b.transition with
  | .forbidden => 0
  | .close => -1
  | .enter _ => 1

/-- How many modes more are opened than closed. -/
def rise (bs : List Boundary) : Int := (bs.map Boundary.change).sum

/-- A mode is closed by what comes behind its opening: at some point one mode more has been closed
than opened. -/
def ClosedBy (later : List Boundary) : Prop := ∃ before ∈ later.inits, rise before < 0

instance (later : List Boundary) : Decidable (ClosedBy later) :=
  inferInstanceAs (Decidable (∃ before ∈ later.inits, rise before < 0))

/-- The modes that are opened and not closed, in the order in which they are opened. -/
def leftOpen : List Boundary → List Opening
  | [] => []
  | b :: bs => (if ClosedBy bs then [] else b.opening?.toList) ++ leftOpen bs

theorem leftOpen_sublist (bs : List Boundary) : (leftOpen bs).Sublist (openings bs) := by
  induction bs with
  | nil => exact .slnil
  | cons b bs ih =>
    rw [leftOpen, openings_cons]
    refine List.Sublist.append ?_ ih
    split
    · exact List.nil_sublist _
    · exact .refl _

theorem mem_leftOpen_cons {o : Opening} :
    o ∈ leftOpen (b :: bs) ↔ b.opening? = some o ∧ ¬ClosedBy bs ∨ o ∈ leftOpen bs := by
  rw [leftOpen, List.mem_append]
  by_cases hclosed : ClosedBy bs <;> simp [hclosed]

/-- A mode is left open if what comes behind its opening does not close it. -/
theorem mem_leftOpen_iff {o : Opening} :
    o ∈ leftOpen bs ↔ ∃ before b after, bs = before ++ b :: after ∧ b.opening? = some o ∧
      ¬ClosedBy after := by
  induction bs with
  | nil => simp [leftOpen]
  | cons b bs ih =>
    rw [mem_leftOpen_cons, ih]
    constructor
    · rintro (⟨ho, hopen⟩ | ⟨before, b', after, rfl, ho, hopen⟩)
      · exact ⟨[], b, bs, rfl, ho, hopen⟩
      · exact ⟨b :: before, b', after, rfl, ho, hopen⟩
    · rintro ⟨before, b', after, heq, ho, hopen⟩
      cases before with
      | nil =>
        cases heq
        exact .inl ⟨ho, hopen⟩
      | cons _ before =>
        cases heq
        exact .inr ⟨before, b', after, rfl, ho, hopen⟩

theorem leftOpen_eq_nil_iff :
    leftOpen bs = [] ↔ ∀ before b after, bs = before ++ b :: after → b.opening? ≠ none →
      ClosedBy after := by
  rw [List.eq_nil_iff_forall_not_mem]
  simp only [mem_leftOpen_iff]
  constructor
  · intro h before b after heq hb
    obtain ⟨o, ho⟩ := Option.ne_none_iff_exists'.1 hb
    by_contra hopen
    exact h o ⟨before, b, after, heq, ho, hopen⟩
  · rintro h o ⟨before, b, after, heq, ho, hopen⟩
    exact hopen (h before b after heq (by rw [ho]; nofun))

/-- How many of the modes that are open at first are closed. -/
def fall : List Boundary → Nat
  | [] => 0
  | b :: bs =>
    match b.transition with
    | .forbidden => fall bs
    | .close => fall bs + 1
    | .enter _ => fall bs - 1

theorem lt_fall_iff {k : Nat} : k < fall bs ↔ ∃ before ∈ bs.inits, rise before < -k := by
  induction bs generalizing k with
  | nil => simp [fall, rise]
  | cons b bs ih =>
    have hcons : (∃ before ∈ (b :: bs).inits, rise before < -k) ↔
        ∃ before ∈ bs.inits, b.change + rise before < -k := by simp [rise]
    rw [hcons]
    obtain ⟨t, f⟩ := b
    cases t with
    | forbidden =>
      rw [fall, ih]
      refine exists_congr fun before => and_congr_right fun _ => ?_
      show rise before < -k ↔ 0 + rise before < -k
      omega
    | close =>
      cases k with
      | zero =>
        refine iff_of_true (Nat.succ_pos _) ⟨[], (List.mem_inits _ _).2 List.nil_prefix, ?_⟩
        show (-1 : Int) + 0 < 0
        decide
      | succ k =>
        rw [fall, Nat.succ_lt_succ_iff, ih]
        refine exists_congr fun before => and_congr_right fun _ => ?_
        show rise before < -k ↔ -1 + rise before < -(k + 1 : Nat)
        omega
    | enter child =>
      rw [fall, Nat.lt_sub_iff_add_lt, ih]
      refine exists_congr fun before => and_congr_right fun _ => ?_
      show rise before < -(k + 1 : Nat) ↔ 1 + rise before < -k
      omega

theorem closedBy_iff : ClosedBy bs ↔ fall bs ≠ 0 := by
  rw [← Nat.pos_iff_ne_zero, lt_fall_iff]
  rfl

/-! ## Frames -/

/-- Behind a path, the open modes are those that it has not closed, and above them those that it
leaves open. -/
theorem Path.openFrames_eq (h : Path g text c bs c') :
    c'.stack.openFrames.map (fun f => (f.mode, f.entry)) =
      (c.stack.openFrames.map fun f => (f.mode, f.entry)).rdrop (fall bs) ++
        (leftOpen bs).map fun o => (o.mode, o.token.start) := by
  induction h with
  | nil => simp [fall, leftOpen]
  | @cons c _ b bs _ hne _ ih =>
    rw [ih]
    obtain ⟨t, f⟩ := b
    cases t with
    | forbidden => exact absurd rfl hne
    | close =>
      have hframes := ModeStack.map_openFrames_close (fun f => (f.mode, f.entry)) (fun _ _ => rfl)
        c.stack f.stop
      have hleft : leftOpen (⟨.close, f⟩ :: bs) = leftOpen bs := by
        rw [leftOpen, Boundary.opening?, Option.toList_none, ite_self, List.nil_append]
      rw [hleft]
      simp only [Config.after, hframes, fall]
      rcases List.eq_nil_or_concat (c.stack.openFrames.map fun f => (f.mode, f.entry)) with
        hnil | ⟨front, last, hconcat⟩
      · rw [hnil, List.dropLast_nil, List.rdrop_nil, List.rdrop_nil]
      · rw [hconcat, List.concat_eq_append, List.dropLast_concat, List.rdrop_concat_succ]
    | enter child =>
      simp only [Config.after, ModeStack.openFrames_push, List.map_append, List.map_singleton]
      rw [leftOpen, Boundary.opening?]
      simp only [closedBy_iff, fall]
      cases hfall : fall bs with
      | zero => simp
      | succ k =>
        -- the mode is among those that are closed later
        rw [List.rdrop_concat_succ, if_pos (Nat.succ_ne_zero k), Nat.succ_sub_one, List.nil_append]

/-- At the end of a path from the start, the open modes are those left open. -/
theorem Path.openFrames_of_start (h : Path g text {} bs c) :
    c.stack.openFrames.map (fun f => (f.mode, f.entry)) =
      (leftOpen bs).map fun o => (o.mode, o.token.start) := by
  have hframes := h.openFrames_eq
  rw [show ({} : Config).stack.openFrames = [] from rfl, List.map_nil, List.rdrop_nil,
    List.nil_append] at hframes
  exact hframes

/-! ## Diagnostics -/

/-- The diagnostic reports that a mode was opened here, and is still open at the end of a text of
this size. -/
structure Opening.ReportedBy (g : Grammar) (size : Nat) (o : Opening) (d : Diagnostic) :
    Prop where
  code : d.code.text = "H0202"
  severity : d.severity = .warning
  message : d.message =
    "mode '" ++ (g.mode o.mode).className ++ "' is not terminated before end of input"
  mode : d.mode = (g.mode o.mode).className
  start : d.range.start = min o.token.start (2 ^ 32 - 1)
  stop : d.range.stop = min size (2 ^ 32 - 1)

theorem forall₂_filterMap {α β : Type} {R : α → β → Prop} {f : α → Option β} {l : List α}
    (h : ∀ a ∈ l, ∃ b, f a = some b ∧ R a b) : List.Forall₂ R l (l.filterMap f) := by
  induction l with
  | nil => exact .nil
  | cons a l ih =>
    obtain ⟨⟨b, hb, hR⟩, hrest⟩ := List.forall_mem_cons.1 h
    rw [List.filterMap_cons, hb]
    exact .cons hR (ih hrest)

theorem exists_reportedBy {size : Nat} {o : Opening} (h : o.token.start ≤ size) :
    ∃ d, Diagnostic.unterminated? (g.mode o.mode).className o.token.start size = some d ∧
      o.ReportedBy g size d := by
  rw [Diagnostic.unterminated?, TextRange.between?_of_le h]
  exact ⟨_, rfl, rfl, rfl, rfl, rfl, rfl, rfl⟩

/-- At the end of a path from the start, the diagnostics report the modes left open. -/
theorem Path.unterminated_eq {job : Job} (h : Path job.grammar job.text {} bs c) :
    unterminated job c.stack = (leftOpen bs).filterMap fun o =>
      Diagnostic.unterminated? (job.grammar.mode o.mode).className o.token.start job.size := by
  have hkeys := congrArg (List.filterMap fun k : Nat × Nat =>
    Diagnostic.unterminated? (job.grammar.mode k.1).className k.2 job.size) h.openFrames_of_start
  rw [List.filterMap_map, List.filterMap_map] at hkeys
  exact hkeys

end Lexer

/-! ## Reading a text -/

namespace Grammar

open Lexer Text

variable {name : String} {d : GrammarDefinition} {g : Grammar} {text : String}
  {options : LexOptions} {out : LexOutput}

/-- The modes that reading a text opens, with the matches that open them. -/
def openings (g : Grammar) (text : String) (options : LexOptions) : List Opening :=
  Lexer.openings (g.trace text options)

/-- The modes that reading a text leaves open. -/
def leftOpen (g : Grammar) (text : String) (options : LexOptions) : List Opening :=
  Lexer.leftOpen (g.trace text options)

/-- The matches that open modes in reading a text lie in the text, one behind the other. -/
theorem openings_spec (g : Grammar) (text : String) (options : LexOptions) :
    (∀ o ∈ g.openings text options, o.Sound g text.toList 0 (size text.toList)) ∧
      (g.openings text options).Pairwise fun o o' => o.token.stop ≤ o'.token.start := by
  obtain ⟨c, hpath, -⟩ := lex_spec g text options
  obtain ⟨hall, hpairs⟩ := hpath.openings_spec
  have hend := (hpath.isPlace (isPlace_zero text.toList)).le_size
  exact ⟨fun o ho => (hall o ho).mono (Nat.le_refl _) hend, hpairs⟩

theorem leftOpen_spec (g : Grammar) (text : String) (options : LexOptions) :
    (∀ o ∈ g.leftOpen text options, o.Sound g text.toList 0 (size text.toList)) ∧
      (g.leftOpen text options).Pairwise fun o o' => o.token.stop ≤ o'.token.start := by
  obtain ⟨hall, hpairs⟩ := openings_spec g text options
  have hsub := leftOpen_sublist (g.trace text options)
  exact ⟨fun o ho => hall o (hsub.subset ho), hpairs.sublist hsub⟩

theorem forall₂_reportedBy (h : g.lex text options = .ok out) :
    List.Forall₂ (fun o d => o.token.start < size text.toList ∧
      o.ReportedBy g (size text.toList) d) (g.leftOpen text options) out.diagnostics := by
  obtain ⟨c, hpath, -, rfl⟩ := path_of_lex_eq_ok h
  have hpath : Path (g.job text options).grammar (g.job text options).text {}
    (g.trace text options) c := hpath
  dsimp only
  rw [diagnostics_along]
  show List.Forall₂ _ _ (unterminated (g.job text options) c.stack)
  rw [hpath.unterminated_eq]
  refine forall₂_filterMap fun o ho => ?_
  have hsound := (leftOpen_spec g text options).1 o ho
  have hlt : o.token.start < size text.toList := hsound.lt.trans_le hsound.le_stop
  obtain ⟨d, hd, hreported⟩ := exists_reportedBy hlt.le
  exact ⟨d, hd, hlt, hreported⟩

/-- The modes left open are nested, from the default mode on. -/
theorem isChain_leftOpen (hg : compile name d = .ok g) (text : String) (options : LexOptions) :
    (0 :: (g.leftOpen text options).map (·.mode)).IsChain fun i j => j ∈ (g.mode i).contains := by
  obtain ⟨c, hpath, -⟩ := lex_spec g text options
  have hstacked := stacked_of_trace hg hpath
  have hmodes := congrArg (List.map Prod.fst) hpath.openFrames_of_start
  rw [List.map_map, List.map_map] at hmodes
  have hframes : c.stack.frames.map Frame.mode =
      0 :: (g.leftOpen text options).map (·.mode) := by
    rw [ModeStack.frames, List.map_cons, hstacked.bottom.1]
    exact congrArg (0 :: ·) hmodes
  rw [← hframes]
  exact (List.isChain_map (R := fun i j => j ∈ (g.mode i).contains) Frame.mode).2
    hstacked.contained

/-- **Modes left open.** If reading succeeds, its diagnostics report the modes left open, one by one
and in the order in which they were opened. Each of these is contained in the one before, and the
first in the default mode. The ranges start one behind the other, and none is empty, unless the text
is too long for them. -/
theorem diagnostics_report_leftOpen (hg : compile name d = .ok g)
    (h : g.lex text options = .ok out) :
    List.Forall₂ (Opening.ReportedBy g (size text.toList)) (g.leftOpen text options)
        out.diagnostics ∧
      (∀ o ∈ g.leftOpen text options, o.Sound g text.toList 0 (size text.toList)) ∧
      (0 :: (g.leftOpen text options).map (·.mode)).IsChain
        (fun i j => j ∈ (g.mode i).contains) ∧
      (size text.toList < 2 ^ 32 →
        (out.diagnostics.map (·.range.start)).Pairwise (· < ·) ∧
          ∀ d ∈ out.diagnostics, d.range.start < d.range.stop) ∧
      (out.diagnostics = [] ↔ ∀ before b after, g.trace text options = before ++ b :: after →
        b.opening? ≠ none → ClosedBy after) := by
  have hreported := forall₂_reportedBy h
  obtain ⟨hsound, hpairs⟩ := leftOpen_spec g text options
  refine ⟨hreported.imp fun _ _ hd => hd.2, hsound, isChain_leftOpen hg text options, ?_, ?_⟩
  · intro hsize
    have hexact : List.Forall₂ (fun (o : Opening) (d : Diagnostic) =>
        o.token.start = d.range.start ∧ d.range.start < d.range.stop)
        (g.leftOpen text options) out.diagnostics := by
      refine hreported.imp fun o d hd => ?_
      obtain ⟨hlt, hd⟩ := hd
      rw [hd.start, hd.stop]
      omega
    have hstarts : (g.leftOpen text options).map (·.token.start) =
        out.diagnostics.map (·.range.start) := map_eq_of_forall₂ hexact fun _ _ => And.left
    refine ⟨?_, fun d hd => ?_⟩
    · rw [← hstarts, List.pairwise_map]
      exact hpairs.imp_of_mem fun ho _ hle => (hsound _ ho).lt.trans_le hle
    · obtain ⟨k, hk, rfl⟩ := List.mem_iff_getElem.1 hd
      exact (hexact.get (hexact.length_eq ▸ hk) hk).2
  · rw [← leftOpen_eq_nil_iff, ← List.length_eq_zero_iff, ← hreported.length_eq,
      List.length_eq_zero_iff]
    rfl

/-- Of four blocks that are opened, the second one and the third one are closed. -/
theorem diagnostics_report_leftOpen_blocks :
    ∃ g out, compile "blocks" blocks = .ok g ∧
      g.lex "\x7b\x7bé\x7d\x7b\x7d\x7b" {} = .ok out ∧
      (g.openings "\x7b\x7bé\x7d\x7b\x7d\x7b" {}).length = 4 ∧
      g.leftOpen "\x7b\x7bé\x7d\x7b\x7d\x7b" {} = [⟨1, ⟨0, 1⟩⟩, ⟨1, ⟨7, 8⟩⟩] ∧
      out.diagnostics.map (·.range) = [⟨0, 8⟩, ⟨7, 8⟩] ∧
      List.Forall₂ (Opening.ReportedBy g 8) (g.leftOpen "\x7b\x7bé\x7d\x7b\x7d\x7b" {})
        out.diagnostics ∧
      (out.diagnostics.map (·.range.start)).Pairwise (· < ·) := by
  have hrun : ((compile "blocks" blocks).toOption.bind fun g =>
      (g.lex "\x7b\x7bé\x7d\x7b\x7d\x7b" {}).toOption.map fun out =>
        ((g.openings "\x7b\x7bé\x7d\x7b\x7d\x7b" {}).length,
          g.leftOpen "\x7b\x7bé\x7d\x7b\x7d\x7b" {}, out.diagnostics.map (·.range))) =
      some (4, [⟨1, ⟨0, 1⟩⟩, ⟨1, ⟨7, 8⟩⟩], [⟨0, 8⟩, ⟨7, 8⟩]) := by
    decide +kernel
  obtain ⟨g, hg, hlex⟩ := Option.bind_eq_some_iff.1 hrun
  obtain ⟨out, hout, hvalues⟩ := Option.map_eq_some_iff.1 hlex
  rw [Except.toOption_eq_some_iff] at hg hout
  simp only [Prod.mk.injEq] at hvalues
  obtain ⟨hopenings, hleft, hranges⟩ := hvalues
  obtain ⟨hreported, -, -, hstarts, -⟩ := diagnostics_report_leftOpen hg hout
  exact ⟨g, out, hg, hout, hopenings, hleft, hranges, hreported, (hstarts (by decide)).1⟩

end Grammar

end Tint
