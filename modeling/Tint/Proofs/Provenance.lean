import Tint.Proofs.Coverage

/-!
# Which mode a span comes from

Every mode that a run opens holds a region of the text: from the start of the match that opens it to
the end of the match that closes it, or to the end of the text. The regions are read off the trace
of the run like brackets off a text (`regions`).

**Nesting (`Path.fits`).** Wherever reading stands, the regions are of two kinds (`Fits`): those of
the modes that are open, which lie around that place, and those that start at or behind it. A mode
that is closed ends a region in front of all that follow and within those that stay open.

**Theorem (`lex_provenance`).** The regions are disjoint or nested, a span lies outside of a region
or within it, and the class of a span is given by the mode of the innermost region around it. The
own text that waits for spans starts behind the start of every open region (`Config.Nested`), so its
spans lie within these and in front of the others (`Fits.around`).
-/

namespace Tint

open Text

/-! ## Regions -/

/-- The stretch of a text in which a mode was open. -/
structure Region where
  mode : Nat
  start : Nat
  stop : Nat
deriving DecidableEq, Repr

namespace Region

/-- The span lies within the region. -/
def Holds (r : Region) (s : Span) : Prop := r.start ≤ s.offset ∧ s.stop ≤ r.stop

/-- One region lies within the other. -/
def Within (r r' : Region) : Prop := r'.start ≤ r.start ∧ r.stop ≤ r'.stop

/-- Two regions have nothing in common. -/
def Disjoint (r r' : Region) : Prop := r.stop ≤ r'.start ∨ r'.stop ≤ r.start

/-- A region that ends before another one starts, or lies within it and starts later. -/
def Before (r r' : Region) : Prop := r.stop ≤ r'.start ∨ r'.start < r.start ∧ r.stop ≤ r'.stop

/-- Of two regions that hold a span, one lies within the other. -/
theorem Before.within {r r' : Region} {s : Span} (hb : r.Before r') (h : r.Holds s)
    (h' : r'.Holds s) (hlt : s.offset < s.stop) : r'.start < r.start ∧ r.stop ≤ r'.stop := by
  rcases hb with hstop | hin
  · have hend := h.2
    have hstart := h'.1
    omega
  · exact hin

end Region

/-- The mode of the innermost of the regions that hold a span, or the default mode if none does. -/
def Around (rs : List Region) (s : Span) (mode : Nat) : Prop :=
  (∃ r ∈ rs, r.Holds s ∧ r.mode = mode ∧ ∀ r' ∈ rs, r'.Holds s → r.Within r') ∨
    (mode = 0 ∧ ∀ r ∈ rs, ¬ r.Holds s)

/-- Regions that continue those that are `opened` at a place, the innermost first. Each of the
others starts at or behind the place, and the opened ones end there or behind it. -/
structure Fits (place size : Nat) (opened rs : List Region) : Prop where
  bounds : ∀ r ∈ rs, r.start < r.stop ∧ r.stop ≤ size
  before : rs.Pairwise Region.Before
  start : ∀ r ∈ rs, place ≤ r.start ∨
    ∃ o ∈ opened, r.mode = o.mode ∧ r.start = o.start ∧ place ≤ r.stop
  opened : ∀ o ∈ opened, ∃ r ∈ rs, r.mode = o.mode ∧ r.start = o.start

namespace Fits

variable {place place' size mode : Nat} {o : Region} {opened rs : List Region} {s : Span}

theorem mono (h : Fits place size opened rs) (hle : place' ≤ place) :
    Fits place' size opened rs where
  bounds := h.bounds
  before := h.before
  opened := h.opened
  start r hr := by
    rcases h.start r hr with hstart | ⟨o, ho, hm, hs, hstop⟩
    · exact .inl (Nat.le_trans hle hstart)
    · exact .inr ⟨o, ho, hm, hs, Nat.le_trans hle hstop⟩

theorem ending (hlt : ∀ o ∈ opened, o.start < size ∧ o.stop = size)
    (hin : opened.Pairwise fun o o' => o'.start < o.start) : Fits size size opened opened where
  bounds r hr := by
    have := hlt r hr
    omega
  before := hin.imp_of_mem fun ha hb hlt' =>
    .inr ⟨hlt', Nat.le_of_eq ((hlt _ ha).2.trans (hlt _ hb).2.symm)⟩
  start r hr := .inr ⟨r, hr, rfl, rfl, Nat.le_of_eq (hlt r hr).2.symm⟩
  opened o ho := ⟨o, ho, rfl, rfl⟩

theorem enter (h : Fits place' size (o :: opened) rs) (hle : place ≤ o.start)
    (hle' : place ≤ place') : Fits place size opened rs where
  bounds := h.bounds
  before := h.before
  opened o' ho' := h.opened o' (List.mem_cons_of_mem _ ho')
  start r hr := by
    rcases h.start r hr with hstart | ⟨o', ho', hm, hs, hstop⟩
    · exact .inl (Nat.le_trans hle' hstart)
    · rcases List.mem_cons.1 ho' with rfl | ho'
      · exact .inl (hs ▸ hle)
      · exact .inr ⟨o', ho', hm, hs, Nat.le_trans hle' hstop⟩

theorem close (h : Fits place size opened rs) (hlt : o.start < place) (hsize : place ≤ size)
    (hin : ∀ o' ∈ opened, o'.start < o.start) :
    Fits place size (o :: opened) ({ o with stop := place } :: rs) where
  bounds := by
    rw [List.forall_mem_cons]
    exact ⟨⟨hlt, hsize⟩, h.bounds⟩
  before := by
    refine List.pairwise_cons.2 ⟨fun r hr => ?_, h.before⟩
    rcases h.start r hr with hstart | ⟨o', ho', -, hs, hstop⟩
    · exact .inl hstart
    · exact .inr ⟨hs ▸ hin o' ho', hstop⟩
  start := by
    rw [List.forall_mem_cons]
    refine ⟨.inr ⟨o, List.mem_cons_self, rfl, rfl, Nat.le_refl _⟩, fun r hr => ?_⟩
    exact (h.start r hr).imp_right fun ⟨o', ho', hr'⟩ => ⟨o', List.mem_cons_of_mem _ ho', hr'⟩
  opened := by
    rw [List.forall_mem_cons]
    refine ⟨⟨_, List.mem_cons_self, rfl, rfl⟩, fun o' ho' => ?_⟩
    obtain ⟨r, hr, h'⟩ := h.opened o' ho'
    exact ⟨r, List.mem_cons_of_mem _ hr, h'⟩

theorem eq_or_before (h : Fits place size opened rs) {r r' : Region} (hr : r ∈ rs) (hr' : r' ∈ rs) :
    r = r' ∨ r.Before r' ∨ r'.Before r := by
  have hall : rs.Pairwise fun r r' => r.Before r' ∨ r'.Before r := h.before.imp .inl
  have hsymm : Std.Symm fun r r' : Region => r.Before r' ∨ r'.Before r := ⟨fun _ _ => Or.symm⟩
  by_cases heq : r = r'
  · exact .inl heq
  · exact .inr (hall.forall hr hr' heq)

theorem around_unique (h : Fits place size opened rs) {mode' : Nat} (hm : Around rs s mode)
    (hm' : Around rs s mode') : mode = mode' := by
  rcases hm with ⟨r, hr, hholds, rfl, hin⟩ | ⟨rfl, hnone⟩
  · rcases hm' with ⟨r', hr', hholds', rfl, hin'⟩ | ⟨rfl, hnone⟩
    · have hwithin := hin r' hr' hholds'
      have hwithin' := hin' r hr hholds
      have hlt := (h.bounds r hr).1
      have hlt' := (h.bounds r' hr').1
      unfold Region.Within at hwithin hwithin'
      rcases h.eq_or_before hr hr' with rfl | hb | hb
      · rfl
      · unfold Region.Before at hb
        omega
      · unfold Region.Before at hb
        omega
    · exact absurd hholds (hnone r hr)
  · rcases hm' with ⟨r', hr', hholds', -, -⟩ | ⟨rfl, -⟩
    · exact absurd hholds' (hnone r' hr')
    · rfl

/-! ### Spans up to the place

A span that ends at the place or before it, and starts behind the start of every open region, lies
within the open regions and in front of the others. -/

theorem stop_le_or_holds (h : Fits place size opened rs) (hstop : s.stop ≤ place)
    (hopened : ∀ o ∈ opened, o.start ≤ s.offset) : ∀ r ∈ rs, s.stop ≤ r.start ∨ r.Holds s := by
  intro r hr
  rcases h.start r hr with hstart | ⟨o, ho, -, hs, hend⟩
  · exact .inl (Nat.le_trans hstop hstart)
  · exact .inr ⟨hs ▸ hopened o ho, Nat.le_trans hstop hend⟩

theorem exists_opened_of_holds (h : Fits place size opened rs) (hlt : s.offset < s.stop)
    (hstop : s.stop ≤ place) : ∀ r ∈ rs, r.Holds s → ∃ o ∈ opened, r.start = o.start := by
  intro r hr hholds
  rcases h.start r hr with hstart | ⟨o, ho, -, hs, -⟩
  · have := hholds.1
    omega
  · exact ⟨o, ho, hs⟩

/-- The innermost of the open regions is the one around the span. -/
theorem around (h : Fits place size opened rs)
    (hin : opened.Pairwise fun o o' => o'.start < o.start) (hlt : s.offset < s.stop)
    (hstop : s.stop ≤ place) (hopened : ∀ o ∈ opened, o.start ≤ s.offset) :
    Around rs s ((opened.head?.map Region.mode).getD 0) := by
  have hof := h.exists_opened_of_holds hlt hstop
  cases opened with
  | nil =>
    refine .inr ⟨rfl, ?_⟩
    intro r hr hholds
    obtain ⟨o, ho, -⟩ := hof r hr hholds
    cases ho
  | cons o outer =>
    obtain ⟨r, hr, hm, hs⟩ := h.opened o List.mem_cons_self
    have hholds : r.Holds s := by
      rcases h.stop_le_or_holds hstop hopened r hr with hfront | hholds
      · have := hopened o List.mem_cons_self
        omega
      · exact hholds
    refine .inl ⟨r, hr, hholds, hm, ?_⟩
    intro r' hr' hholds'
    -- No open region starts behind the innermost one.
    have hle : r'.start ≤ r.start := by
      obtain ⟨o', ho', hs'⟩ := hof r' hr' hholds'
      rcases List.mem_cons.1 ho' with rfl | ho'
      · omega
      · have := List.rel_of_pairwise_cons hin ho'
        omega
    rcases h.eq_or_before hr hr' with rfl | hb | hb
    · exact ⟨Nat.le_refl _, Nat.le_refl _⟩
    · exact ⟨hle, (hb.within hholds hholds' hlt).2⟩
    · have := (hb.within hholds' hholds hlt).1
      omega

end Fits

namespace Lexer

variable {g : Grammar} {text : List Char} {b : Boundary} {bs : List Boundary} {c c' : Config}
  {job : Job}

/-! ## Regions of a trace -/

/-- The regions of the modes that a trace opens, those that are closed first before the others.
`opened` are the open ones, the last one first, each up to the end of the text; a closing match ends
the first of them. -/
def regions (size : Nat) : (opened : List Region) → List Boundary → List Region
  | opened, [] => opened
  | opened, b :: bs =>
    match b.transition, opened with
    | .enter child, _ => regions size (⟨child, b.found.start, size⟩ :: opened) bs
    | .close, o :: outer => { o with stop := b.found.stop } :: regions size outer bs
    | _, _ => regions size opened bs

/-- The mode that a boundary opens, and where. -/
def Boundary.entry? (b : Boundary) : Option (Nat × Nat) :=
  match b.transition with
  | .enter child => some (child, b.found.start)
  | _ => none

/-- Every mode that is opened has one region. -/
theorem regions_perm (size : Nat) (opened : List Region) (bs : List Boundary) :
    ((regions size opened bs).map fun r => (r.mode, r.start)).Perm
      (opened.map (fun r => (r.mode, r.start)) ++ bs.filterMap Boundary.entry?) := by
  induction bs generalizing opened with
  | nil => simp [regions]
  | cons b bs ih =>
    obtain ⟨t, f⟩ := b
    cases t with
    | forbidden => exact ih opened
    | enter child => exact (ih _).trans List.perm_middle.symm
    | close =>
      cases opened with
      | nil => exact ih []
      | cons o outer => exact (ih outer).cons _

/-- The regions of the open modes, each up to the end of the text. -/
def Config.opened (text : List Char) (c : Config) : List Region :=
  c.stack.above.map fun f => ⟨f.mode, f.entry, size text⟩

theorem opened_after_close (text : List Char) (c : Config) (f : Found) :
    (c.after ⟨.close, f⟩).opened text = (c.opened text).tail := by
  obtain ⟨position, bottom, above⟩ := c
  cases above with
  | nil => rfl
  | cons top rest => cases rest <;> rfl

/-- Behind a move there are the same regions, apart from the one that ends at the move. -/
theorem regions_cons (text : List Char) (c : Config) (bs : List Boundary)
    (hne : b.transition ≠ .forbidden) :
    ∃ closed, regions (size text) (c.opened text) (b :: bs) =
        closed ++ regions (size text) ((c.after b).opened text) bs ∧
      ∀ r ∈ closed, r.stop = b.cut := by
  obtain ⟨t, f⟩ := b
  cases t with
  | forbidden => exact absurd rfl hne
  | enter child => exact ⟨[], rfl, nofun⟩
  | close =>
    rw [opened_after_close]
    cases c.opened text with
    | nil => exact ⟨[], rfl, nofun⟩
    | cons o outer =>
      refine ⟨[{ o with stop := f.stop }], rfl, fun r hr => ?_⟩
      rw [List.mem_singleton.1 hr]
      rfl

/-! ## Nesting -/

/-- The open modes were opened one after the other, before the own text that waits for spans, and
the one at the bottom is the default mode. -/
structure Config.Nested (text : List Char) (c : Config) : Prop extends c.Ready text where
  bottom : c.stack.bottom.mode = 0
  start_lt : ∀ o ∈ c.opened text, o.start < c.position
  start_le : ∀ o ∈ c.opened text, o.start ≤ c.stack.top.textStart
  inward : (c.opened text).Pairwise fun o o' => o'.start < o.start

theorem nested_start (text : List Char) : ({} : Config).Nested text :=
  ⟨ready_start text, rfl, nofun, nofun, .nil⟩

theorem Config.Nested.after (hc : c.Nested text) (hw : Wins (offers g text c) b)
    (hne : b.transition ≠ .forbidden) : (c.after b).Nested text := by
  have hready := hc.toReady.after hw hne
  obtain ⟨hle, hcut, -⟩ := cut_spec hw hne
  obtain ⟨-, -, hlt⟩ := offers_spec hw.mem
  have htext := textStart_after c hne
  obtain ⟨t, f⟩ := b
  cases t with
  | forbidden => exact absurd rfl hne
  | enter child =>
    have hnew : f.start < f.stop := hlt nofun
    refine ⟨hready, hc.bottom, ?_, ?_, ?_⟩
    · refine List.forall_mem_cons.2 ⟨hnew, fun o ho => ?_⟩
      exact Nat.lt_of_lt_of_le (hc.start_lt o ho) (Nat.le_trans hle hcut)
    · refine List.forall_mem_cons.2 ⟨Nat.le_refl _, fun o ho => ?_⟩
      exact Nat.le_of_lt (Nat.lt_of_lt_of_le (hc.start_lt o ho) hle)
    · exact List.pairwise_cons.2
        ⟨fun o ho => Nat.lt_of_lt_of_le (hc.start_lt o ho) hle, hc.inward⟩
  | close =>
    have hold : ∀ o ∈ (c.after ⟨.close, f⟩).opened text, o.start < f.stop := fun o ho => by
      rw [opened_after_close] at ho
      exact Nat.lt_of_lt_of_le (hc.start_lt o (List.mem_of_mem_tail ho)) hle
    refine ⟨hready, ?_, hold, fun o ho => ?_, ?_⟩
    · have hpop : c.stack.pop.2.bottom = c.stack.bottom := by
        unfold ModeStack.pop
        split <;> rfl
      simp only [Config.after, ModeStack.mode_bottom_setTextStart, hpop]
      exact hc.bottom
    · rw [htext]
      exact Nat.le_of_lt (hold o ho)
    · rw [opened_after_close]
      exact hc.inward.tail

/-- Up to where the own text of the open mode becomes spans next. -/
def nextCut (size : Nat) : List Boundary → Nat
  | [] => size
  | b :: _ => b.cut

theorem Path.nextCut_spec (h : Path g text c bs c') (hc : IsPlace text c.position) :
    c.position ≤ nextCut (size text) bs ∧ nextCut (size text) bs ≤ size text := by
  cases h with
  | nil => exact ⟨hc.le_size, Nat.le_refl _⟩
  | cons hw hne _ =>
    obtain ⟨hle, -, hplace⟩ := cut_spec hw hne
    exact ⟨hle, hplace.le_size⟩

/-- The regions of a path continue those of the modes that are open where it starts. -/
theorem Path.fits (h : Path g text c bs c') (hc : c.Nested text) :
    Fits (nextCut (size text) bs) (size text) (c.opened text)
      (regions (size text) (c.opened text) bs) := by
  induction h with
  | nil c =>
    refine .ending (fun o ho => ⟨?_, ?_⟩) hc.inward
    · exact Nat.lt_of_lt_of_le (hc.start_lt o ho) hc.position.le_size
    · obtain ⟨f, -, rfl⟩ := List.mem_map.1 ho
      rfl
  | @cons c c' b bs hw hne hpath ih =>
    have hc' := hc.after hw hne
    have hfits := (ih hc').mono (hpath.nextCut_spec hc'.position).1
    obtain ⟨hle, hcut, hplace⟩ := cut_spec hw hne
    obtain ⟨t, f⟩ := b
    cases t with
    | forbidden => exact absurd rfl hne
    | enter child => exact hfits.enter (Nat.le_refl _) hcut
    | close =>
      have hlt := hc.start_lt
      have hin := hc.inward
      rw [opened_after_close] at hfits
      cases ho : c.opened text with
      | nil => rwa [ho] at hfits
      | cons o outer =>
        rw [ho] at hfits hlt hin
        have hstart : o.start < f.stop := Nat.lt_of_lt_of_le (hlt o List.mem_cons_self) hle
        exact hfits.close hstart hplace.le_size fun o' ho' => List.rel_of_pairwise_cons hin ho'

/-! ## Spans -/

/-- The mode opened last is that of the innermost open region, or the default mode. -/
theorem Config.Nested.mode_top (hc : c.Nested text) :
    c.stack.top.mode = ((c.opened text).head?.map Region.mode).getD 0 := by
  unfold ModeStack.top Config.opened
  cases c.stack.above with
  | nil => exact hc.bottom
  | cons top rest => rfl

/-- No region stops or starts within the span, and its class is from the mode around it. -/
def Placed (g : Grammar) (rs : List Region) (s : Span) : Prop :=
  (∀ r ∈ rs, s.stop ≤ r.start ∨ r.stop ≤ s.offset ∨ r.Holds s) ∧
    ∃ mode, Around rs s mode ∧ (s.className = (g.mode mode).className ∨
      (g.mode mode).keywords.category? s.text = some s.className)

/-- The spans of the open mode's own text are within the open regions and in front of the others. -/
theorem placed_of_mem_ownSpans {cut : Nat} {own : List Char} {rs : List Region} {s : Span}
    (hc : c.Nested job.text) (hown : slice? job.text c.stack.top.textStart cut = some own)
    (hfits : Fits cut (size job.text) (c.opened job.text) rs)
    (hs : s ∈ ownSpans job c.stack.top cut) : Placed job.grammar rs s := by
  obtain ⟨hle, hlt, hstop⟩ := (ownSpans_lays hown).bounds hs
  rw [size_of_slice? hown] at hstop
  have hopened : ∀ o ∈ c.opened job.text, o.start ≤ s.offset :=
    fun o ho => Nat.le_trans (hc.start_le o ho) hle
  have haround := hfits.around hc.inward hlt hstop hopened
  rw [← hc.mode_top] at haround
  refine ⟨?_, c.stack.top.mode, haround, Mode.class_of_mem_classify hs⟩
  intro r hr
  exact (hfits.stop_le_or_holds hstop hopened r hr).imp_right .inr

/-- Regions that stop before a span say nothing about it. -/
theorem Placed.of_append {closed rs : List Region} {s : Span} (h : Placed g rs s)
    (hlt : s.offset < s.stop) (hclosed : ∀ r ∈ closed, r.stop ≤ s.offset) :
    Placed g (closed ++ rs) s := by
  have hno : ∀ r ∈ closed, ¬ r.Holds s := fun r hr hholds => by
    have := hclosed r hr
    have := hholds.2
    omega
  obtain ⟨hplace, mode, haround, hclass⟩ := h
  have hfront : ∀ r ∈ closed, s.stop ≤ r.start ∨ r.stop ≤ s.offset ∨ r.Holds s :=
    fun r hr => .inr (.inl (hclosed r hr))
  refine ⟨List.forall_mem_append.2 ⟨hfront, hplace⟩, mode, ?_, hclass⟩
  rcases haround with ⟨r, hr, hholds, hm, hin⟩ | ⟨rfl, hnone⟩
  · exact .inl ⟨r, List.mem_append_right _ hr, hholds, hm,
      List.forall_mem_append.2 ⟨fun r' hr' hholds' => absurd hholds' (hno r' hr'), hin⟩⟩
  · exact .inr ⟨rfl, List.forall_mem_append.2 ⟨hno, hnone⟩⟩

theorem Path.placed (job : Job) (hsize : job.size = size job.text)
    (h : Path job.grammar job.text c bs c') (hc : c.Nested job.text) :
    ∀ s ∈ (along job c bs (ending job c')).spans,
      Placed job.grammar (regions (size job.text) (c.opened job.text) bs) s := by
  induction h with
  | nil c =>
    intro s hs
    obtain ⟨own, hown⟩ := exists_slice? hc.textStart (isPlace_size job.text) hc.textStart.le_size
    rw [along, ending, hsize] at hs
    have hpath : Path job.grammar job.text c [] c := .nil c
    exact placed_of_mem_ownSpans hc hown (hpath.fits hc) hs
  | @cons c c' b bs hw hne hpath ih =>
    intro s hs
    obtain ⟨hle, -, hcut⟩ := cut_spec hw hne
    rcases List.mem_append.1 hs with hs | hs
    · obtain ⟨own, hown⟩ := exists_slice? hc.textStart hcut (Nat.le_trans hc.textStart_le hle)
      exact placed_of_mem_ownSpans hc hown (Path.fits (.cons hw hne hpath) hc) hs
    · have hc' := hc.after hw hne
      obtain ⟨closed, hregions, hclosed⟩ := regions_cons job.text c bs hne
      obtain ⟨later, -, hlays⟩ := along_lays job hsize hpath hc'.toReady
      obtain ⟨hstart, hlt, -⟩ := hlays.bounds hs
      rw [textStart_after c hne] at hstart
      rw [hregions]
      exact (ih hc' s hs).of_append hlt fun r hr => hclosed r hr ▸ hstart

end Lexer

/-! ## Reading a text -/

namespace Grammar

open Lexer

/-- The regions of the modes that reading a text opens. -/
def regions (g : Grammar) (text : String) (options : LexOptions) : List Region :=
  Lexer.regions (size text.toList) [] (g.trace text options)

/-- The span has the class of the mode, or the category that the keyword table of the mode gives to
its text. -/
def ClassedBy (m : Mode) (s : Span) : Prop :=
  s.className = m.className ∨ ∃ category ∈ m.keywords.categories,
    m.keywords.category? s.text = some category ∧ s.className = category

/-- **Provenance.** If reading succeeds, every mode that it opened has a region. The regions are not
empty, they start at different places, and any two are disjoint or one lies within the other. Every
span lies outside of a region or within it. There is one mode around it, that of the innermost
region that holds it or the default mode outside of all regions, and this mode gives the span its
class. -/
theorem lex_provenance {name : String} {d : GrammarDefinition} {g : Grammar} {text : String}
    {options : LexOptions} {out : LexOutput} (hg : compile name d = .ok g)
    (h : g.lex text options = .ok out) :
    ((g.regions text options).map fun r => (r.mode, r.start)).Perm
        ((g.trace text options).filterMap Boundary.entry?) ∧
      (∀ r ∈ g.regions text options, r.start < r.stop ∧ r.stop ≤ size text.toList) ∧
      ((g.regions text options).Pairwise fun r r' =>
        r.start ≠ r'.start ∧ (r.Disjoint r' ∨ r.Within r' ∨ r'.Within r)) ∧
      (∀ s ∈ out.spans, ∀ r ∈ g.regions text options,
        s.stop ≤ r.start ∨ r.stop ≤ s.offset ∨ r.Holds s) ∧
      ∀ s ∈ out.spans, (∃! mode, Around (g.regions text options) s mode) ∧
        ∀ mode, Around (g.regions text options) s mode → ClassedBy (g.mode mode) s := by
  obtain ⟨c, hpath, -, rfl⟩ := path_of_lex_eq_ok h
  have hnested := nested_start text.toList
  have hfits := hpath.fits hnested
  have hplaced := Path.placed (g.job text options) rfl hpath hnested
  refine ⟨regions_perm _ [] _, hfits.bounds, ?_, fun s hs => (hplaced s hs).1, fun s hs => ?_⟩
  · refine hfits.before.imp_of_mem fun {r r'} hr hr' hb => ?_
    have := hfits.bounds r hr
    unfold Region.Before at hb
    unfold Region.Disjoint Region.Within
    omega
  · obtain ⟨-, mode, haround, hclass⟩ := hplaced s hs
    have honly : ∀ mode', Around (g.regions text options) s mode' → mode' = mode :=
      fun mode' haround' => hfits.around_unique haround' haround
    refine ⟨⟨mode, haround, honly⟩, fun mode' haround' => ?_⟩
    rw [honly mode' haround']
    exact hclass.imp_right fun hc => ⟨_, category?_mem_of_compile hg hc, hc, rfl⟩

/-- A keyword in front of a block, a block within it, and a block that is never closed. -/
theorem lex_provenance_blocks :
    ∃ g out, compile "blocks" blocks = .ok g ∧ g.lex "if\x7bif\x7b\x7d\x7d\x7b" {} = .ok out ∧
      g.regions "if\x7bif\x7b\x7d\x7d\x7b" {} = [⟨1, 5, 7⟩, ⟨1, 2, 8⟩, ⟨1, 8, 9⟩] ∧
      ∀ s ∈ out.spans, (∃! mode, Around [⟨1, 5, 7⟩, ⟨1, 2, 8⟩, ⟨1, 8, 9⟩] s mode) ∧
        ∀ mode, Around [⟨1, 5, 7⟩, ⟨1, 2, 8⟩, ⟨1, 8, 9⟩] s mode → ClassedBy (g.mode mode) s := by
  have hrun : ((compile "blocks" blocks).toOption.bind fun g =>
      (g.lex "if\x7bif\x7b\x7d\x7d\x7b" {}).toOption.map fun _ =>
        g.regions "if\x7bif\x7b\x7d\x7d\x7b" {}) =
          some [⟨1, 5, 7⟩, ⟨1, 2, 8⟩, ⟨1, 8, 9⟩] := by
    decide +kernel
  obtain ⟨g, hg, hboth⟩ := Option.bind_eq_some_iff.1 hrun
  obtain ⟨out, hlex, hregions⟩ := Option.map_eq_some_iff.1 hboth
  rw [Except.toOption_eq_some_iff] at hg hlex
  obtain ⟨-, -, -, -, hclass⟩ := lex_provenance hg hlex
  exact ⟨g, out, hg, hlex, hregions, hregions ▸ hclass⟩

end Grammar

end Tint
