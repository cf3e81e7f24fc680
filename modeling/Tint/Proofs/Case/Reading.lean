import Tint.Proofs.Case.Matching
import Tint.Proofs.Restart

/-!
# Grammars that ignore case

A grammar ignores case in two ways that have nothing to do with each other: its patterns carry a
flag, and its keywords are looked up in lower case. Together they make it blind to the case of ASCII
letters, unless one of its patterns takes the flag back (`GrammarDefinition.KeepsCase`).

**Own text (`classify_alike`).** Lexems find the same words in texts that are alike. Words that are
alike have the same lower-case form, so they belong to the same category.

**Lockstep (`step_alike`).** Readers that stand at the same place of texts that are alike, with the
same modes open, find the same matches. So they take the same transition, and what they give is
alike. What they remember may differ, but a sound memo never changes an answer.

**Theorem (`lex_alike`).** So the two readings end alike: the spans lie at the same places and have
the same classes, and errors are the same up to the case of the text that they quote.
-/

namespace Tint

open Text

/-! ## What is alike -/

/-- The spans lie at the same place and have the same class, and their texts are alike. -/
structure Span.Alike (s s' : Span) : Prop where
  className : s'.className = s.className
  offset : s'.offset = s.offset
  stop : s'.stop = s.stop
  text : Text.Alike s.text.toList s'.text.toList

/-- The outputs are the same, up to the case of the texts of their spans. -/
structure LexOutput.Alike (out out' : LexOutput) : Prop where
  spans : List.Forall₂ Span.Alike out.spans out'.spans
  relevance : out'.relevance = out.relevance
  diagnostics : out'.diagnostics = out.diagnostics

/-- The errors are the same, up to the case of the text that one of them quotes. -/
inductive LexError.Alike : LexError → LexError → Prop
  | illegalSequence {offset : Nat} {slice slice' grammar mode : String} :
      Text.Alike slice.toList slice'.toList →
      Alike (.illegalSequence offset slice grammar mode)
        (.illegalSequence offset slice' grammar mode)
  | stepLimitExceeded (grammar : String) (limit : Nat) :
      Alike (.stepLimitExceeded grammar limit) (.stepLimitExceeded grammar limit)
  | nestingTooDeep (grammar : String) (depth offset : Nat) :
      Alike (.nestingTooDeep grammar depth offset) (.nestingTooDeep grammar depth offset)

/-- Both readings succeed or both fail, and what they give is alike. -/
inductive ResultAlike : Except LexError LexOutput → Except LexError LexOutput → Prop
  | ok {out out' : LexOutput} : out.Alike out' → ResultAlike (.ok out) (.ok out')
  | error {e e' : LexError} : e.Alike e' → ResultAlike (.error e) (.error e')

theorem ResultAlike.after {spans spans' : List Span} (hspans : List.Forall₂ Span.Alike spans spans')
    (relevance : Int) {r r' : Except LexError LexOutput} (h : ResultAlike r r') :
    ResultAlike (r.map (LexOutput.after spans relevance))
      (r'.map (LexOutput.after spans' relevance)) := by
  cases h with
  | error he => exact .error he
  | ok hout =>
    exact .ok ⟨List.rel_append hspans hout.spans, congrArg (relevance + ·) hout.relevance,
      hout.diagnostics⟩

/-! ## Grammars that ignore case -/

/-- All patterns of a mode. -/
def ModeDefinition.sources (m : ModeDefinition) : List String :=
  m.beginSource.toList ++ m.endSource.toList ++ m.illegalSource.toList ++ m.lexems

/-- No part of a pattern stops ignoring case. -/
def GrammarDefinition.KeepsCase (d : GrammarDefinition) : Prop :=
  ∀ m ∈ d.defaultMode :: d.modes, ∀ source ∈ m.sources, Pattern.keepsCase source = true

instance (d : GrammarDefinition) : Decidable d.KeepsCase :=
  inferInstanceAs (Decidable (∀ m ∈ d.defaultMode :: d.modes, ∀ source ∈ m.sources,
    Pattern.keepsCase source = true))

/-- The patterns of the mode are caseless, and its keywords are looked up in lower case. -/
structure Mode.Caseless (m : Mode) : Prop where
  beginPattern : ∀ p, m.beginPattern = some p → p.Caseless
  endPattern : ∀ p, m.endPattern = some p → p.Caseless
  illegal : ∀ p, m.illegal = some p → p.Caseless
  lexems : ∀ p ∈ m.lexems, p.Caseless
  keywords : m.keywords.caseInsensitive = true

namespace Grammar

variable {name : String} {d : GrammarDefinition} {g : Grammar}

theorem Scope.caseless_lexems {s : Scope} {mode : String} {keywords : KeywordTable}
    {declared lexems : List Pattern} (hoptions : s.options.caseInsensitive = true)
    (hdeclared : ∀ p ∈ declared, p.Caseless) (h : s.lexems mode keywords declared = .ok lexems) :
    ∀ p ∈ lexems, p.Caseless := by
  unfold Scope.lexems at h
  split at h
  · cases h
    exact nofun
  split at h
  · cases hword : s.pattern mode .lexems wordSource with
    | error e =>
      rw [hword] at h
      cases h
    | ok p =>
      rw [hword] at h
      cases h
      have hkeeps : Pattern.keepsCase wordSource = true := by decide +kernel
      exact List.forall_mem_singleton.2
        (Pattern.caseless_of_compile? hoptions hkeeps (pattern_eq_ok_iff.1 hword))
  · cases h
    exact hdeclared

theorem Scope.Inner.caseless {s : Scope} {md : ModeDefinition} {opener closer : Option Pattern}
    {m : Mode} (h : s.Inner md opener closer m) (hoptions : s.options.caseInsensitive = true)
    (hkeeps : ∀ source ∈ md.sources, Pattern.keepsCase source = true)
    (hopener : ∀ p, opener = some p → p.Caseless) (hcloser : ∀ p, closer = some p → p.Caseless) :
    m.Caseless where
  beginPattern := h.beginPattern ▸ hopener
  endPattern := h.endPattern ▸ hcloser
  illegal := by
    intro p hp
    have hillegal := h.illegal
    rw [hp] at hillegal
    obtain ⟨source, hsource, hcompile⟩ := optional_eq_ok_some_iff.1 hillegal
    refine Pattern.caseless_of_compile? hoptions (hkeeps source ?_) hcompile
    simp [ModeDefinition.sources, hsource]
  lexems := by
    obtain ⟨declared, hdeclared, hlexems⟩ := h.lexems
    refine caseless_lexems hoptions (fun p hp => ?_) hlexems
    obtain ⟨i, hi, rfl⟩ := List.mem_iff_getElem.1 hp
    have hi' : i < md.lexems.length := by rwa [hdeclared.length_eq]
    have hcompile := pattern_eq_ok_iff.1 (hdeclared.get hi' hi)
    refine Pattern.caseless_of_compile? hoptions (hkeeps _ ?_) hcompile
    exact List.mem_append_right _ (List.getElem_mem hi')
  keywords := by
    rw [h.keywords]
    exact hoptions

/-- A definition that ignores case, and of which no pattern stops doing so, is compiled to modes
that are caseless. -/
theorem caseless_of_compile (h : compile name d = .ok g)
    (hoptions : d.options.caseInsensitive = true) (hkeeps : d.KeepsCase) (i : Nat) :
    (g.mode i).Caseless := by
  have hdefault : g.defaultMode.Caseless :=
    (compile_eq_ok_iff.1 h).defaultMode.caseless hoptions (hkeeps _ List.mem_cons_self) nofun nofun
  cases i with
  | zero => exact hdefault
  | succ i =>
    rcases Nat.lt_or_ge i d.modes.length with hi | hi
    · have hmode := hkeeps _ (List.mem_cons_of_mem _ (List.getElem_mem hi))
      obtain ⟨opener, closer, hopener, hcloser, hinner⟩ := bounded_of_compile h hi
      obtain ⟨source, hbegin, hopener⟩ := Scope.required_eq_ok_iff.1 hopener
      obtain ⟨source', hend, hcloser⟩ := Scope.required_eq_ok_iff.1 hcloser
      refine hinner.caseless hoptions hmode ?_ ?_
      · rintro _ ⟨⟩
        refine Pattern.caseless_of_compile? hoptions (hmode source ?_) hopener
        simp [ModeDefinition.sources, hbegin]
      · rintro _ ⟨⟩
        refine Pattern.caseless_of_compile? hoptions (hmode source' ?_) hcloser
        simp [ModeDefinition.sources, hend]
    · rw [mode_of_length_le h hi]
      exact hdefault

end Grammar

/-! ## Own text -/

/-- The texts are cut at the same places. -/
structure Cut.Alike (cut cut' : Cut) : Prop where
  before : Text.Alike cut.before cut'.before
  word : Text.Alike cut.word cut'.word
  after : Text.Alike cut.after cut'.after

section Classification

variable {lexems : List Pattern} {m : Mode} {cs ds us vs : List Char}

theorem Survey.ofLexems_alike (hlexems : ∀ p ∈ lexems, p.Caseless) (h : Text.Alike cs ds) :
    Survey.ofLexems lexems cs = Survey.ofLexems lexems ds := by
  unfold Survey.ofLexems
  generalize ({} : Survey) = survey
  induction lexems generalizing survey with
  | nil => rfl
  | cons p lexems ih =>
    obtain ⟨hp, hrest⟩ := List.forall_mem_cons.1 hlexems
    rw [List.foldl_cons, List.foldl_cons, Pattern.find_alike hp h, ih hrest]

theorem Cut.find?_alike (hlexems : ∀ p ∈ lexems, p.Caseless) (budget : Nat)
    (hpassed : Text.Alike us vs) (h : Text.Alike cs ds) :
    Option.Rel Cut.Alike (Cut.find? lexems budget us cs) (Cut.find? lexems budget vs ds) := by
  induction budget generalizing us vs cs ds with
  | zero => exact .none
  | succ budget ih =>
    cases h with
    | nil => exact .none
    | @cons c d cs ds hc h =>
      have htext : Text.Alike (c :: cs) (d :: ds) := .cons hc h
      rw [Cut.find?, Cut.find?, Survey.ofLexems_alike hlexems htext]
      obtain ⟨word, empty⟩ := Survey.ofLexems lexems (d :: ds)
      cases word with
      | some w =>
        obtain ⟨hbefore, hrest⟩ := splitAt_alike htext w.start
        obtain ⟨hword, hafter⟩ := splitAt_alike hrest (w.stop - w.start)
        exact .some ⟨hpassed.append hbefore, hword, hafter⟩
      | none =>
        cases empty with
        | none => exact .none
        | some place =>
          obtain ⟨hbefore, hrest⟩ := splitAt_alike htext place
          dsimp only
          generalize splitAt (c :: cs) place = cut, splitAt (d :: ds) place = cut'
            at hbefore hrest ⊢
          obtain ⟨before, rest⟩ := cut
          obtain ⟨before', rest'⟩ := cut'
          cases hrest with
          | nil => exact .none
          | cons hx hrest => exact ih ((hpassed.append hbefore).append (.cons hx .nil)) hrest

theorem Cut.ofText?_alike (hlexems : ∀ p ∈ lexems, p.Caseless) (h : Text.Alike cs ds) :
    Option.Rel Cut.Alike (Cut.ofText? lexems cs) (Cut.ofText? lexems ds) := by
  have hlength : cs.length = ds.length := List.Forall₂.length_eq h
  rw [Cut.ofText?, Cut.ofText?, hlength]
  exact Cut.find?_alike hlexems _ .nil h

theorem Span.alike_of_text (className : String) (offset : Nat) (h : Text.Alike cs ds) :
    Span.Alike ⟨className, String.ofList cs, offset⟩ ⟨className, String.ofList ds, offset⟩ := by
  have htext : Text.Alike (String.ofList cs).toList (String.ofList ds).toList := by
    rwa [String.toList_ofList, String.toList_ofList]
  refine ⟨rfl, rfl, ?_, htext⟩
  rw [Span.stop_eq, Span.stop_eq, htext.size_eq]

theorem Mode.stretch_alike (className : String) (offset : Nat) (h : Text.Alike cs ds) :
    List.Forall₂ Span.Alike (Mode.stretch className cs offset)
      (Mode.stretch className ds offset) := by
  unfold Mode.stretch
  rw [h.isEmpty_eq]
  split
  · exact .nil
  · exact .cons (Span.alike_of_text className offset h) .nil

/-- Words that are alike belong to the same category. -/
theorem KeywordTable.category?_alike {t : KeywordTable} (ht : t.caseInsensitive = true)
    (h : Text.Alike cs ds) :
    t.category? (String.ofList cs) = t.category? (String.ofList ds) := by
  have hword : Text.Alike (String.ofList cs).toList (String.ofList ds).toList := by
    rwa [String.toList_ofList, String.toList_ofList]
  rw [category?, category?, normalize, normalize, if_pos ht, if_pos ht,
    Unicode.lowercase_alike hword]

theorem Mode.classifyFrom_alike (hm : m.Caseless) (budget : Nat) (hplain : Text.Alike us vs)
    (h : Text.Alike cs ds) (offset : Nat) :
    List.Forall₂ Span.Alike (m.classifyFrom budget us cs offset)
      (m.classifyFrom budget vs ds offset) := by
  induction budget generalizing us vs cs ds offset with
  | zero =>
    rw [classifyFrom, classifyFrom, hplain.size_eq]
    exact stretch_alike _ _ (hplain.append h)
  | succ budget ih =>
    have hcut := Cut.ofText?_alike hm.lexems h
    rw [classifyFrom, classifyFrom, hplain.size_eq]
    generalize Cut.ofText? m.lexems cs = cut, Cut.ofText? m.lexems ds = cut' at hcut ⊢
    cases hcut with
    | none => exact stretch_alike _ _ (hplain.append h)
    | some hcut =>
      dsimp only
      rw [hcut.before.size_eq, hcut.word.size_eq,
        KeywordTable.category?_alike hm.keywords hcut.word]
      split
      · exact List.rel_append (stretch_alike _ _ (hplain.append hcut.before))
          (.cons (Span.alike_of_text _ _ hcut.word) (ih .nil hcut.after _))
      · exact ih ((hplain.append hcut.before).append hcut.word) hcut.after _

/-- The own text of a caseless mode gives spans that are alike. -/
theorem Mode.classify_alike (hm : m.Caseless) (h : Text.Alike cs ds) (offset : Nat) :
    List.Forall₂ Span.Alike (m.classify cs offset) (m.classify ds offset) := by
  have hlength : cs.length = ds.length := List.Forall₂.length_eq h
  unfold classify
  split
  · exact stretch_alike _ _ h
  · rw [hlength]
    exact classifyFrom_alike hm _ .nil h offset

end Classification

namespace Lexer

/-- The job of reading another text of the same size. -/
def Job.reading (job : Job) (text : List Char) : Job := { job with text }

variable {g : Grammar} {job : Job} {text : List Char} {c : Config} {s s' : State}
  {r : Except LexError LexOutput}

/-! ## Lockstep -/

theorem offers_alike (hg : ∀ i, (g.mode i).Caseless) {cs ds : List Char} (h : Text.Alike cs ds)
    (c : Config) : offers g cs c = offers g ds c := by
  have hbind : ∀ {o : Option Pattern} {f f' : Pattern → Option Found},
      (∀ p, o = some p → f p = f' p) → o.bind f = o.bind f' := by
    intro o f f' hf
    cases o with
    | none => rfl
    | some p => exact hf p rfl
  have hillegal := hbind fun p hp =>
    Pattern.findNonEmpty_alike ((hg c.stack.top.mode).illegal p hp) h c.position
  have hclose := hbind fun p hp =>
    Pattern.find_alike ((hg c.stack.top.mode).endPattern p hp) h c.position
  have henter : ∀ child, ((g.mode child).beginPattern.bind fun p => p.findNonEmpty cs c.position) =
      (g.mode child).beginPattern.bind fun p => p.findNonEmpty ds c.position := fun child =>
    hbind fun p hp => Pattern.findNonEmpty_alike ((hg child).beginPattern p hp) h c.position
  simp only [offers, hillegal, hclose, henter]

theorem ownSpans_alike (hg : ∀ i, (job.grammar.mode i).Caseless) (h : Text.Alike job.text text)
    (frame : Frame) (stop : Nat) :
    List.Forall₂ Span.Alike (ownSpans job frame stop)
      (ownSpans (job.reading text) frame stop) :=
  Mode.classify_alike (hg frame.mode) (between_alike h frame.textStart stop) frame.textStart

theorem Stops.alike (hg : ∀ i, (job.grammar.mode i).Caseless) (h : Text.Alike job.text text)
    (hstop : Stops job c r) : ∃ r', Stops (job.reading text) c r' ∧ ResultAlike r r' := by
  have hoffers := offers_alike hg h c
  cases hstop with
  | done hnone =>
    rw [hoffers] at hnone
    exact ⟨_, .done hnone, .ok ⟨ownSpans_alike hg h _ _, rfl, rfl⟩⟩
  | @forbidden f hw =>
    rw [hoffers] at hw
    refine ⟨_, .forbidden hw, .error (.illegalSequence ?_)⟩
    rw [String.toList_ofList, String.toList_ofList]
    exact between_alike h f.start f.stop
  | tooDeep hw hdepth =>
    rw [hoffers] at hw
    exact ⟨_, .tooDeep hw hdepth, .error (.nestingTooDeep _ _ _)⟩

/-- Two readers of different texts stand at the same place, with the same modes open. -/
structure SideBySide (job : Job) (text : List Char) (s s' : State) : Prop where
  sound : s.Sound job
  sound' : s'.Sound (job.reading text)
  config : s'.config = s.config

/-- **Lockstep.** Readers of texts that are alike, side by side, take the same transition. -/
theorem step_alike (hg : ∀ i, (job.grammar.mode i).Caseless) (h : Text.Alike job.text text)
    (hs : SideBySide job text s s') :
    (∃ r r', ResultAlike r r' ∧ step job s = .ofResult r ∧
        step (job.reading text) s' = .ofResult r') ∨
      ∃ spans spans' relevance t t', List.Forall₂ Span.Alike spans spans' ∧
        step job s = .next spans relevance t ∧
        step (job.reading text) s' = .next spans' relevance t' ∧ SideBySide job text t t' := by
  obtain ⟨hsound, hsound', hconfig⟩ := hs
  have hstack : s'.stack = s.stack := congrArg Config.stack hconfig
  rcases step_cases hsound with
    ⟨r, hstop, hstep⟩ | ⟨b, t, -, hw, hne, hdepth, hafter, ht, hstep⟩
  · obtain ⟨r', hstop', halike⟩ := hstop.alike hg h
    rw [← hconfig] at hstop'
    exact .inl ⟨r, r', halike, hstep, step_of_stops hsound' hstop'⟩
  · rw [offers_alike hg h, ← hconfig] at hw
    obtain ⟨t', hafter', ht', hstep'⟩ := step_of_wins hsound' hw hne (hstack ▸ hdepth)
    refine .inr ⟨_, _, _, t, t', ?_, hstep, hstep', ht, ht', ?_⟩
    · rw [hstack]
      exact ownSpans_alike hg h _ _
    · rw [hafter', hconfig, hafter]

/-! ## Runs -/

/-- Readers side by side come to results that are alike. -/
theorem run_alike (hg : ∀ i, (job.grammar.mode i).Caseless) (h : Text.Alike job.text text)
    (hs : SideBySide job text s s') (limit budget : Nat) :
    ResultAlike (run job limit budget s) (run (job.reading text) limit budget s') := by
  induction budget generalizing s s' with
  | zero => exact .error (.stepLimitExceeded _ _)
  | succ budget ih =>
    rcases step_alike hg h hs with
      ⟨r, r', halike, hstep, hstep'⟩ | ⟨spans, spans', relevance, t, t', hspans, hstep, hstep', ht⟩
    · rw [run, run, hstep, hstep']
      cases halike with
      | ok hout => exact .ok hout
      | error he => exact .error he
    · rw [run, run, hstep, hstep']
      exact ResultAlike.after hspans relevance (ih ht)

end Lexer

namespace Grammar

open Lexer

/-- **A grammar that ignores case is blind to it.** Take a definition whose patterns ignore case,
and none of which stops doing so. Under any limits it reads two texts alike that differ in the case
of ASCII letters only: spans have the same places and classes, relevance and diagnostics are the
same, and so are errors, up to the case of the texts that spans and errors quote. -/
theorem lex_alike {name : String} {d : GrammarDefinition} {g : Grammar}
    (h : compile name d = .ok g) (hoptions : d.options.caseInsensitive = true)
    (hkeeps : d.KeepsCase) {text text' : String}
    (htexts : Text.Alike text.toList text'.toList) (options : LexOptions) :
    ResultAlike (g.lex text options) (g.lex text' options) := by
  have hg := caseless_of_compile h hoptions hkeeps
  have hjob : g.job text' options = (g.job text options).reading text'.toList := by
    rw [job, htexts.size_eq]
    rfl
  have hlimit : options.stepLimitFor text' = options.stepLimitFor text := by
    rw [LexOptions.stepLimitFor, htexts.size_eq]
    rfl
  have hs : SideBySide (g.job text options) text'.toList {} {} :=
    ⟨sound_start _, sound_start _, rfl⟩
  have hrun := run_alike hg htexts hs (options.stepLimitFor text)
    (Nat.min (options.stepLimitFor text) (maxSteps (size text.toList)))
  have hlex : ∀ text, g.lex text options = (run (g.job text options) (options.stepLimitFor text)
      (Nat.min (options.stepLimitFor text) (maxSteps (size text.toList))) {}).map
        (LexOutput.after [] g.defaultMode.relevance) := fun _ => rfl
  rw [hlex, hlex text', hjob, hlimit, htexts.size_eq]
  exact ResultAlike.after .nil _ hrun

/-- Clauses from `do` to the end of the line, in which an `x` is forbidden. Outside of them `if` is
a keyword. -/
def clauses : GrammarDefinition where
  name := "clauses"
  options := { caseInsensitive := true }
  defaultMode :=
    ((({} : ModeDefinition).containing ["clause"]).withKeywords "keyword" ["if"]).cutting ["[a-j]+"]
  modes := [(ModeDefinition.bounded "clause" "do" "$").forbidding "x"]

/-- A keyword and a clause, and a clause with an `x`, each in two spellings. -/
theorem lex_alike_clauses :
    ∃ g out out', compile "clauses" clauses = .ok g ∧ clauses.options.caseInsensitive = true ∧
      clauses.KeepsCase ∧ Text.Alike "IF é Do".toList "iF é dO".toList ∧
      g.lex "IF é Do" {} = .ok out ∧ g.lex "iF é dO" {} = .ok out' ∧ out.Alike out' ∧
      out.spans = [⟨"keyword", "IF", 0⟩, ⟨"", " é ", 2⟩, ⟨"clause", "Do", 6⟩] ∧
      out'.spans = [⟨"keyword", "iF", 0⟩, ⟨"", " é ", 2⟩, ⟨"clause", "dO", 6⟩] ∧
      g.lex "do X" {} = .error (.illegalSequence 3 "X" "clauses" "clause") ∧
      ResultAlike (g.lex "do X" {}) (g.lex "DO x" {}) := by
  have hrun : ((compile "clauses" clauses).toOption.bind fun g =>
      (g.lex "IF é Do" {}).toOption.bind fun out => (g.lex "iF é dO" {}).toOption.map fun out' =>
        (out.spans, out'.spans, g.lex "do X" {})) =
      some ([⟨"keyword", "IF", 0⟩, ⟨"", " é ", 2⟩, ⟨"clause", "Do", 6⟩],
        [⟨"keyword", "iF", 0⟩, ⟨"", " é ", 2⟩, ⟨"clause", "dO", 6⟩],
        .error (.illegalSequence 3 "X" "clauses" "clause")) := by
    decide +kernel
  have hkeeps : clauses.KeepsCase := by decide +kernel
  obtain ⟨g, hg, hlex⟩ := Option.bind_eq_some_iff.1 hrun
  obtain ⟨out, hout, hlex⟩ := Option.bind_eq_some_iff.1 hlex
  obtain ⟨out', hout', hvalues⟩ := Option.map_eq_some_iff.1 hlex
  simp only [Prod.mk.injEq] at hvalues
  obtain ⟨hspans, hspans', hillegal⟩ := hvalues
  rw [Except.toOption_eq_some_iff] at hg hout hout'
  have htexts : Text.Alike "IF é Do".toList "iF é dO".toList := by decide
  have halike := lex_alike hg rfl hkeeps htexts {}
  rw [hout, hout'] at halike
  cases halike with
  | ok halike =>
    exact ⟨g, out, out', hg, rfl, hkeeps, htexts, hout, hout', halike, hspans, hspans', hillegal,
      lex_alike hg rfl hkeeps (by decide) {}⟩

end Grammar

end Tint
