import Tint.Proofs.Anchors
import Tint.Proofs.Numbering
import Tint.Proofs.Openings

/-!
# Modes that are closed where they are opened

A search does not see the text before the place it is made from, so `^` is found at every place. A
mode that ends at `^` and forbids nothing is *transient*: wherever it is open, what closes it is on
offer at the very place, and nothing comes before it in the order of priority. So it wins
(`wins_of_transient`), whatever the mode contains.

**Two transitions (`step_of_transient`).** When such a mode has been opened, the next transition
closes it, behind the match that opened it. Its own text is this match, and reading goes on with the
stack as it was before, with own text starting anew.

**Theorem (`caret_closes_at_once`).** So in a run that is not out of transitions, every opening of
the mode is followed by its closing, no mode is opened inside of it, and it is not among the modes
left open.
-/

namespace Tint

namespace Grammar

variable {name : String} {d : GrammarDefinition} {g : Grammar} {m : ModeDefinition} {i k : Nat}

/-! ## Transient modes -/

/-- The mode ends at `^`, and nothing is forbidden in it. -/
structure Transient (g : Grammar) (i : Nat) : Prop where
  illegal : (g.mode i).illegal = none
  closer : ∃ p options, (g.mode i).endPattern = some p ∧ Pattern.compile? "^" options = some p

theorem transient_of_compile (h : compile name d = .ok g) (hm : d.modes[k]? = some m)
    (hend : m.endSource = some "^") (hillegal : m.illegalSource = none) : g.Transient (k + 1) := by
  obtain ⟨hk, rfl⟩ := List.getElem?_eq_some_iff.1 hm
  obtain ⟨_, closer, -, hcloser, hinner⟩ := bounded_of_compile h hk
  constructor
  · have hnone := hinner.illegal
    rw [hillegal] at hnone
    exact (Except.ok.inj hnone).symm
  · obtain ⟨source, hsource, hcompile⟩ := Scope.required_eq_ok_iff.1 hcloser
    rw [hend] at hsource
    cases hsource
    exact ⟨closer, _, hinner.endPattern, hcompile⟩

theorem eq_succ_of_className (h : compile name d = .ok g) (hm : d.modes[k]? = some m)
    (hbegin : (g.mode i).beginPattern ≠ none) (hname : (g.mode i).className = m.className) :
    i = k + 1 := by
  have hbare := (bare_of_compile h).1
  have hne : i ≠ 0 := by
    intro hzero
    rw [hzero] at hbegin
    exact hbegin hbare
  have hlt : i < g.modeCount := by
    obtain ⟨j, rfl⟩ := Nat.exists_eq_succ_of_ne_zero hne
    rw [modeCount_of_compile h]
    by_contra hle
    -- a number that no mode has stands for the default mode
    rw [mode_of_length_le h (by omega)] at hbegin
    exact hbegin hbare
  obtain ⟨j, rfl, hj⟩ := (declares_iff_getElem? h).1 ⟨hne, _, mode?_eq_some g hlt, hname⟩
  have hk : (d.modes.map (·.className))[k]? = some m.className := by
    rw [List.getElem?_map, hm]
    rfl
  have hnodup := (noClash_of_compile h).1
  rw [← idxOf?_eq_some_iff_getElem? hnodup] at hj hk
  rw [Option.some.inj (hj.symm.trans hk)]

end Grammar

namespace Lexer

open Text

variable {g : Grammar} {text : List Char} {b : Boundary} {bs bs' : List Boundary} {c c' : Config}
  {job : Job} {s s' : State} {spans : List Span} {relevance : Int} {child : Nat} {f : Found}

/-! ## The winner -/

/-- In a transient mode, what closes it wins at the very place. -/
theorem wins_of_transient (h : g.Transient c.stack.top.mode) (hplace : IsPlace text c.position) :
    Wins (offers g text c) ⟨.close, ⟨c.position, c.position⟩⟩ := by
  obtain ⟨p, options, hcloser, hcompile⟩ := h.closer
  have hfind := Pattern.find_caret hcompile hplace
  have hoffers : ∃ enters, offers g text c = ⟨.close, ⟨c.position, c.position⟩⟩ :: enters := by
    simp [offers, h.illegal, hcloser, hfind]
  obtain ⟨enters, henters⟩ := hoffers
  refine ⟨[], enters, henters, ?_, ?_⟩
  · intro x hx
    cases hx
  · intro x hx
    have hmem : x ∈ offers g text c := by
      rw [henters]
      exact List.mem_cons_of_mem _ hx
    exact (offers_spec hmem).1

/-- A transient mode that is opened is closed behind the match that opens it. -/
theorem wins_after_enter (h : g.Transient child)
    (hw : Wins (offers g text c) ⟨.enter child, f⟩) :
    Wins (offers g text (c.after ⟨.enter child, f⟩)) ⟨.close, ⟨f.stop, f.stop⟩⟩ := by
  obtain ⟨-, ⟨w, hslice⟩, -⟩ := offers_spec hw.mem
  exact wins_of_transient (c := c.after ⟨.enter child, f⟩) h (isPlace_right_of_slice? hslice)

/-! ## Two transitions -/

/-- **Two transitions.** A transient mode that has been opened is closed by the next transition. Its
own text is the match that opened it, and reading goes on behind it in the mode below. -/
theorem step_of_transient (h : job.grammar.Transient child) (hs : s.Sound job)
    (hstep : step job s = .next spans relevance s')
    (hb : (s.boundary job).1 = some ⟨.enter child, f⟩) :
    ∃ token s'', slice? job.text f.start f.stop = some token ∧
      (s'.boundary job).1 = some ⟨.close, ⟨f.stop, f.stop⟩⟩ ∧
      step job s' = .next ((job.grammar.mode child).classify token f.start) 0 s'' ∧
      s''.position = f.stop ∧ s''.stack = s.stack.setTextStart f.stop := by
  obtain ⟨b, hb', hw, -, -, hafter, hs'⟩ := boundary_of_next hs hstep
  obtain rfl := Option.some.inj (hb.symm.trans hb')
  obtain ⟨-, ⟨token, hslice⟩, -⟩ := offers_spec hw.mem
  have hclose := wins_after_enter h hw
  rw [← hafter] at hclose
  obtain ⟨s'', hafter', -, hstep'⟩ := step_of_wins hs' hclose nofun nofun
  have hstack : s'.stack = s.stack.push child f.start := congrArg Config.stack hafter
  have hown : ownSpans job s'.stack.top f.stop =
      (job.grammar.mode child).classify token f.start := by
    rw [hstack, ModeStack.top_push, ownSpans]
    rw [between_of_slice? hslice]
  have hconfig : s''.config = ⟨f.stop, s.stack.setTextStart f.stop⟩ := by
    rw [hafter', hafter]
    rfl
  refine ⟨token, s'', hslice, ?_, ?_, congrArg Config.position hconfig,
    congrArg Config.stack hconfig⟩
  · rw [(boundary_spec hs').1]
    exact winner_eq_some_iff.2 hclose
  · rw [hstep', ← hown]
    rfl

/-! ## Paths -/

theorem Path.exists_between (h : Path g text c (bs ++ bs') c') :
    ∃ c₁, Path g text c bs c₁ ∧ Path g text c₁ bs' c' := by
  induction bs generalizing c with
  | nil => exact ⟨c, .nil c, h⟩
  | cons b bs ih =>
    cases h with
    | cons hw hne htail =>
      obtain ⟨c₁, hbefore, hafter⟩ := ih htail
      exact ⟨c₁, .cons hw hne hbefore, hafter⟩

/-- Where another boundary wins than one that is forbidden or opens a mode, the machine does not
stop. -/
theorem Stops.absurd_of_close {r : Except LexError LexOutput} (h : Stops job c r)
    (hw : Wins (offers job.grammar job.text c) ⟨.close, f⟩) : False := by
  cases h with
  | done hnone => simpa [hnone] using hw.mem
  | forbidden hw' => cases hw.unique hw'
  | tooDeep hw' _ => cases hw.unique hw'

end Lexer

/-! ## Reading a text -/

namespace Grammar

open Lexer Text

variable {name : String} {d : GrammarDefinition} {g : Grammar} {m : ModeDefinition} {i k : Nat}
  {text : String} {options : LexOptions}

/-- Every opening of a transient mode is followed by its closing, as long as there are transitions
left. -/
theorem trace_of_transient (h : g.Transient i)
    (hlimit : ∀ language limit, g.lex text options ≠ .error (.stepLimitExceeded language limit))
    {before after : List Boundary} {f : Found}
    (htrace : g.trace text options = before ++ ⟨.enter i, f⟩ :: after) :
    ∃ rest, after = ⟨.close, ⟨f.stop, f.stop⟩⟩ :: rest := by
  obtain ⟨c, hpath, -, ⟨-, hlex⟩ | ⟨-, r, hstop, -⟩⟩ := lex_spec g text options
  · exact absurd hlex (hlimit _ _)
  · rw [htrace] at hpath
    obtain ⟨c₁, -, htail⟩ := hpath.exists_between
    cases htail with
    | cons hw _ htail =>
      have hclose := wins_after_enter h hw
      cases htail with
      | nil => exact (hstop.absurd_of_close hclose).elim
      | @cons _ _ b rest hw' _ _ =>
        obtain rfl := hw'.unique hclose
        exact ⟨rest, rfl⟩

/-- A transient mode is not among the modes left open. -/
theorem ne_of_mem_leftOpen (h : g.Transient i)
    (hlimit : ∀ language limit, g.lex text options ≠ .error (.stepLimitExceeded language limit)) :
    ∀ o ∈ g.leftOpen text options, o.mode ≠ i := by
  intro o ho hmode
  obtain ⟨before, ⟨t, f⟩, after, htrace, hopening, hopen⟩ := mem_leftOpen_iff.1 ho
  cases t with
  | forbidden => cases hopening
  | close => cases hopening
  | enter child =>
    cases hopening
    subst hmode
    obtain ⟨rest, rfl⟩ := trace_of_transient h hlimit htrace
    -- one mode is closed behind the opening, and none opened
    have hfall : rise [⟨.close, ⟨f.stop, f.stop⟩⟩] < 0 := by
      show (-1 : Int) + 0 < 0
      decide
    exact hopen ⟨_, (List.mem_inits _ _).2 ⟨rest, rfl⟩, hfall⟩

/-- **A mode that ends at `^` is closed at once.** Take a mode that ends at `^` and forbids nothing,
whatever it contains and whatever the flags of the grammar are. In a run that is not out of
transitions every opening of the mode is followed by its closing, at the end of the match that opens
it. The own text of the mode is this match, and reading goes on behind it in the mode below. Where
the mode is open, it is closed by the next transition, so no mode is opened inside of it; and no
diagnostic reports it. -/
theorem caret_closes_at_once (h : compile name d = .ok g) (hm : d.modes[k]? = some m)
    (hend : m.endSource = some "^") (hillegal : m.illegalSource = none) (text : String)
    (options : LexOptions)
    (hlimit : ∀ language limit, g.lex text options ≠ .error (.stepLimitExceeded language limit)) :
    (∀ before f after, g.trace text options = before ++ ⟨.enter (k + 1), f⟩ :: after →
      ∃ rest, after = ⟨.close, ⟨f.stop, f.stop⟩⟩ :: rest) ∧
      (∀ n s spans relevance s' f, Reaches (g.job text options) n s →
        step (g.job text options) s = .next spans relevance s' →
        (s.boundary (g.job text options)).1 = some ⟨.enter (k + 1), f⟩ →
        ∃ token s'', slice? text.toList f.start f.stop = some token ∧
          (s'.boundary (g.job text options)).1 = some ⟨.close, ⟨f.stop, f.stop⟩⟩ ∧
          step (g.job text options) s' =
            .next ((g.mode (k + 1)).classify token f.start) 0 s'' ∧
          s''.position = f.stop ∧ s''.stack = s.stack.setTextStart f.stop) ∧
      (∀ n s, Reaches (g.job text options) n s → s.stack.top.mode = k + 1 →
        (s.boundary (g.job text options)).1 = some ⟨.close, ⟨s.position, s.position⟩⟩) ∧
      ∀ out, g.lex text options = .ok out → ∀ report ∈ out.diagnostics,
        report.mode ≠ m.className := by
  have htransient := transient_of_compile h hm hend hillegal
  refine ⟨?_, ?_, ?_, ?_⟩
  · intro before f after htrace
    exact trace_of_transient htransient hlimit htrace
  · intro n s spans relevance s' f hs hstep hb
    have hjob : (g.job text options).grammar.Transient (k + 1) := htransient
    exact step_of_transient hjob (reaches_spec hs).1 hstep hb
  · intro n s hs htop
    have hsound := (reaches_spec hs).1
    have htop : g.Transient s.config.stack.top.mode := htop ▸ htransient
    rw [(boundary_spec hsound).1]
    exact winner_eq_some_iff.2 (wins_of_transient htop hsound.place)
  · intro out hlex report hreport hname
    have hreported := forall₂_reportedBy hlex
    obtain ⟨j, hj, rfl⟩ := List.mem_iff_getElem.1 hreport
    have hj' : j < (g.leftOpen text options).length := hreported.length_eq ▸ hj
    have hopen := List.getElem_mem hj'
    have hclass := (hreported.get hj' hj).2.mode
    obtain ⟨p, _, hp, -⟩ := ((leftOpen_spec g text options).1 _ hopen).found
    refine ne_of_mem_leftOpen htransient hlimit _ hopen ?_
    refine eq_succ_of_className h hm ?_ (hclass.symm.trans hname)
    rw [hp]
    exact nofun

/-- Blocks and letters. A letter is a mode of its own, that refers to all there is, but ends at
`^`. -/
def marks : GrammarDefinition where
  name := "marks"
  defaultMode := ({} : ModeDefinition).containing ["block"]
  modes :=
    [(ModeDefinition.bounded "block" "\\x7b" "\\x7d").containing ["mark", "block"],
      (ModeDefinition.bounded "mark" "[a-z]" "^").containing
        ["mark", "block", defaultModeReference]]

/-- A letter is closed behind itself, also at the end of the text, where a block is left open. -/
theorem caret_closes_at_once_marks :
    ∃ g s out, compile "marks" marks = .ok g ∧
      g.trace "\x7baéb" {} =
        [⟨.enter 1, ⟨0, 1⟩⟩, ⟨.enter 2, ⟨1, 2⟩⟩, ⟨.close, ⟨2, 2⟩⟩, ⟨.enter 2, ⟨4, 5⟩⟩,
          ⟨.close, ⟨5, 5⟩⟩] ∧
      Reaches (g.job "\x7baéb" {}) 4 s ∧ s.stack.top.mode = 2 ∧
      (s.boundary (g.job "\x7baéb" {})).1 = some ⟨.close, ⟨5, 5⟩⟩ ∧
      g.lex "\x7baéb" {} = .ok out ∧ out.diagnostics.map (·.mode) = ["block"] ∧
      ∀ report ∈ out.diagnostics, report.mode ≠ "mark" := by
  have hrun : ((compile "marks" marks).toOption.bind fun g =>
      (g.lex "\x7baéb" {}).toOption.bind fun out =>
        (given? (g.job "\x7baéb" {}) 4).map fun given =>
          (g.trace "\x7baéb" {}, out.diagnostics.map (·.mode), given.1.stack.top.mode,
            given.1.position)) =
      some ([⟨.enter 1, ⟨0, 1⟩⟩, ⟨.enter 2, ⟨1, 2⟩⟩, ⟨.close, ⟨2, 2⟩⟩, ⟨.enter 2, ⟨4, 5⟩⟩,
        ⟨.close, ⟨5, 5⟩⟩], ["block"], 2, 5) := by
    decide +kernel
  obtain ⟨g, hg, hlexed⟩ := Option.bind_eq_some_iff.1 hrun
  obtain ⟨out, hout, hgiven⟩ := Option.bind_eq_some_iff.1 hlexed
  obtain ⟨⟨s, spans, relevance⟩, hgiven, hvalues⟩ := Option.map_eq_some_iff.1 hgiven
  simp only [Prod.mk.injEq] at hvalues
  obtain ⟨htrace, hmodes, htop, hposition⟩ := hvalues
  rw [Except.toOption_eq_some_iff] at hg hout
  have hlimit : ∀ language limit,
      g.lex "\x7baéb" {} ≠ .error (.stepLimitExceeded language limit) := by
    intro language limit hexceeded
    rw [hout] at hexceeded
    cases hexceeded
  have hreach := reaches_of_given? hgiven
  obtain ⟨-, -, hclosed, hreports⟩ :=
    caret_closes_at_once (k := 1) hg rfl rfl rfl "\x7baéb" {} hlimit
  have hboundary := hclosed 4 s hreach htop
  rw [hposition] at hboundary
  exact ⟨g, s, out, hg, htrace, hreach, htop, hboundary, hout, hmodes, hreports out hout⟩

end Grammar

end Tint
