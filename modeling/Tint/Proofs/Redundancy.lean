import Tint.Proofs.Outline
import Tint.Proofs.Reordering

/-!
# References that make no difference

A definition may let a mode contain the default mode, or name a mode twice. The first is never on
offer, since nothing opens the default mode. The second is on offer twice, but the offer that comes
later starts where the earlier one does, and so it never wins.

**Paring (`Pares`).** Such references may be left out of a list, some of them or all. To leave out
names leaves out the places that they are resolved to (`Scope.exists_pared_resolve`), and these are
redundant in the same way. So a pared definition is accepted, and its modes are the modes of the
other one but for the places left out (`exists_compile_of_paredTo`).

**Winners (`winner_of_pares`).** A list of offers with one more that it holds before has the same
winner. By induction over the list, the same match wins after paring.

**Theorem (`lex_of_paredTo`).** So both grammars read every text alike. What one reader remembers
and the other does not is sound, and does not matter.
-/

namespace Tint

/-! ## Lists with redundant members -/

/-- Members of a list are left out that are redundant: each of them is `void`, or it is among those
that have been seen, which are the members before it and those from before the list. -/
inductive Pares {α : Type} (void : α) : (seen as kept : List α) → Prop
  | nil (seen : List α) : Pares void seen [] []
  | keep {a : α} {seen as kept : List α} :
      Pares void (a :: seen) as kept → Pares void seen (a :: as) (a :: kept)
  | leave {a : α} {seen as kept : List α} :
      a = void ∨ a ∈ seen → Pares void (a :: seen) as kept → Pares void seen (a :: as) kept

/-- The mode without some of its redundant references. -/
def ModeDefinition.ParedTo (m m' : ModeDefinition) : Prop :=
  ∃ kept, Pares defaultModeReference [] m.contains kept ∧ m' = { m with contains := kept }

/-- The definition without some of the redundant references of its modes. -/
structure GrammarDefinition.ParedTo (d d' : GrammarDefinition) : Prop where
  name : d'.name = d.name
  options : d'.options = d.options
  defaultMode : d.defaultMode.ParedTo d'.defaultMode
  modes : List.Forall₂ ModeDefinition.ParedTo d.modes d'.modes

/-- The compiled mode without some of its redundant references. -/
def Mode.ParedTo (m m' : Mode) : Prop :=
  ∃ kept, Pares 0 [] m.contains kept ∧ m' = { m with contains := kept }

/-! ## Compiling -/

namespace Grammar

variable {name : String} {d d' : GrammarDefinition} {g : Grammar} {s : Scope}
  {m m' : ModeDefinition} {opener closer : Option Pattern} {compiled : Mode}

/-- The places that these names are resolved to are among these. -/
def Scope.ResolvesInto (s : Scope) (mode : String) (names : List String) (places : List Nat) :
    Prop :=
  ∀ n ∈ names, ∀ i, s.resolve mode n = .ok i → i ∈ places

theorem Scope.ResolvesInto.cons {mode n : String} {names : List String} {places : List Nat}
    {i : Nat} (h : s.ResolvesInto mode names places) (hi : s.resolve mode n = .ok i) :
    s.ResolvesInto mode (n :: names) (i :: places) := by
  intro n' hn' i' hi'
  rcases List.mem_cons.1 hn' with rfl | hn'
  · cases hi.symm.trans hi'
    exact List.mem_cons_self
  · exact List.mem_cons_of_mem _ (h n' hn' i' hi')

/-- What is redundant among names is redundant among the places that they are resolved to. -/
theorem Scope.exists_pared_resolve {mode : String} {seen names kept : List String}
    {seenPlaces places : List Nat} (h : Pares defaultModeReference seen names kept)
    (hplaces : List.Forall₂ (fun n i => s.resolve mode n = .ok i) names places)
    (hseen : s.ResolvesInto mode seen seenPlaces) :
    ∃ keptPlaces, List.Forall₂ (fun n i => s.resolve mode n = .ok i) kept keptPlaces ∧
      Pares 0 seenPlaces places keptPlaces := by
  induction h generalizing places seenPlaces with
  | nil =>
    cases hplaces
    exact ⟨[], .nil, .nil _⟩
  | keep _ ih =>
    cases hplaces with
    | cons hi hplaces =>
      obtain ⟨keptPlaces, hkept, hpares⟩ := ih hplaces (hseen.cons hi)
      exact ⟨_, .cons hi hkept, .keep hpares⟩
  | leave hredundant _ ih =>
    cases hplaces with
    | cons hi hplaces =>
      obtain ⟨keptPlaces, hkept, hpares⟩ := ih hplaces (hseen.cons hi)
      refine ⟨keptPlaces, hkept, .leave ?_ hpares⟩
      rcases hredundant with rfl | hmem
      · rw [resolve, if_pos (beq_self_eq_true _)] at hi
        cases hi
        exact .inl rfl
      · exact .inr (hseen _ hmem _ hi)

theorem Scope.Inner.exists_pared (h : s.Inner m opener closer compiled) (hm : m.ParedTo m') :
    ∃ compiled', s.Inner m' opener closer compiled' ∧ compiled.ParedTo compiled' := by
  obtain ⟨kept, hkept, rfl⟩ := hm
  obtain ⟨places, hplaces, hpares⟩ := exists_pared_resolve hkept h.contains nofun
  refine ⟨{ compiled with contains := places }, ?_, places, hpares, rfl⟩
  exact ⟨h.className, h.beginPattern, h.endPattern, h.illegal, hplaces, h.keywords, h.lexems,
    h.relevance⟩

theorem Scope.Bounded.exists_pared (h : s.Bounded m compiled) (hm : m.ParedTo m') :
    ∃ compiled', s.Bounded m' compiled' ∧ compiled.ParedTo compiled' := by
  obtain ⟨opener, closer, hopener, hcloser, hinner⟩ := h
  obtain ⟨compiled', hinner', hpared⟩ := hinner.exists_pared hm
  obtain ⟨kept, -, rfl⟩ := hm
  exact ⟨compiled', ⟨opener, closer, hopener, hcloser, hinner'⟩, hpared⟩

theorem exists_forall₂_paredTo {ms ms' : List ModeDefinition} {compiledModes : List Mode}
    (hm : List.Forall₂ ModeDefinition.ParedTo ms ms')
    (h : List.Forall₂ s.Bounded ms compiledModes) :
    ∃ compiledModes', List.Forall₂ s.Bounded ms' compiledModes' ∧
      List.Forall₂ Mode.ParedTo compiledModes compiledModes' := by
  induction hm generalizing compiledModes with
  | nil =>
    cases h
    exact ⟨[], .nil, .nil⟩
  | cons hhead _ ih =>
    cases h with
    | cons hbounded hrest =>
      obtain ⟨compiled', hbounded', hpared⟩ := hbounded.exists_pared hhead
      obtain ⟨compiledModes', hrest', hpareds⟩ := ih hrest
      exact ⟨compiled' :: compiledModes', .cons hbounded' hrest', .cons hpared hpareds⟩

theorem scopeOf_of_paredTo (hd : d.ParedTo d') : scopeOf name d' = scopeOf name d := by
  have hnames : d.modes.map (·.className) = d'.modes.map (·.className) := by
    apply map_eq_of_forall₂ hd.modes
    rintro m m' ⟨kept, -, rfl⟩
    rfl
  rw [scopeOf, ← hnames, hd.options, scopeOf]

/-- A pared definition is accepted, and its modes are those of the other one, pared. -/
theorem exists_compile_of_paredTo (h : compile name d = .ok g) (hd : d.ParedTo d') :
    ∃ g', compile name d' = .ok g' ∧ g'.name = g.name ∧ ∀ i, (g.mode i).ParedTo (g'.mode i) := by
  have hc := compile_eq_ok_iff.1 h
  have hscope : scopeOf name d' = scopeOf name d := scopeOf_of_paredTo hd
  obtain ⟨defaultMode, hdefault, hpared⟩ := hc.defaultMode.exists_pared hd.defaultMode
  obtain ⟨modes, hmodes, hpareds⟩ := exists_forall₂_paredTo hd.modes hc.modes
  have hnames : d'.modes.map (·.className) = d.modes.map (·.className) :=
    congrArg Scope.modeNames hscope
  refine ⟨⟨g.name, d'.options, defaultMode, modes⟩, compile_eq_ok_iff.2 ?_, rfl, ?_⟩
  · rw [← hscope] at hdefault hmodes
    exact ⟨hc.name_ne, hnames ▸ hc.noClash, hc.name_eq, rfl, hdefault, hmodes⟩
  · intro i
    cases i with
    | zero => exact hpared
    | succ i => exact rel_getD hpareds hpared i

end Grammar

namespace Lexer

variable {g g' : Grammar} {text : List Char} {c : Config} {bs : List Boundary} {x : Boundary}

/-! ## The winner -/

theorem winner_append (bs rest : List Boundary) :
    winner (bs ++ rest) =
      rest.foldl (fun best b => earlier best b.transition (some b.found)) (winner bs) :=
  List.foldl_append

/-- An offer that has been made before does not win. -/
theorem winner_append_cons_of_mem (h : x ∈ bs) (rest : List Boundary) :
    winner (bs ++ x :: rest) = winner (bs ++ rest) := by
  have hwinner : earlier (winner bs) x.transition (some x.found) = winner bs := by
    cases hb : winner bs with
    | none =>
      rw [winner_eq_none_iff.1 hb] at h
      cases h
    | some b =>
      have hle := (winner_eq_some_iff.1 hb).start_le x h
      exact if_neg (Nat.not_lt.2 hle)
  rw [winner_append, List.foldl_cons, hwinner, ← winner_append]

/-- Where nothing is offered for `void`, and what was seen is on offer before, redundant members do
not change the winner. -/
theorem winner_of_pares {α : Type} {void : α} {seen as kept : List α} {offer : α → Option Boundary}
    (h : Pares void seen as kept) (hvoid : offer void = none)
    (hseen : ∀ a ∈ seen, ∀ b, offer a = some b → b ∈ bs) :
    winner (bs ++ kept.filterMap offer) = winner (bs ++ as.filterMap offer) := by
  induction h generalizing bs with
  | nil => rfl
  | @keep a seen as kept _ ih =>
    have hcons : ∀ as, (a :: as).filterMap offer = (offer a).toList ++ as.filterMap offer := by
      intro as
      cases ha : offer a <;> simp [ha]
    rw [hcons, hcons, ← List.append_assoc, ← List.append_assoc]
    apply ih
    -- what the member kept offers is on offer before the rest
    intro a' ha' b hb
    rcases List.mem_cons.1 ha' with rfl | ha'
    · simp [hb]
    · exact List.mem_append_left _ (hseen a' ha' b hb)
  | @leave a seen as kept hredundant _ ih =>
    have hoffer : ∀ b, offer a = some b → b ∈ bs := by
      intro b hb
      rcases hredundant with rfl | hmem
      · cases hvoid.symm.trans hb
      · exact hseen a hmem b hb
    have hseen' : ∀ a' ∈ a :: seen, ∀ b, offer a' = some b → b ∈ bs := by
      intro a' ha'
      rcases List.mem_cons.1 ha' with rfl | ha'
      · exact hoffer
      · exact hseen a' ha'
    rw [ih hseen']
    cases ha : offer a with
    | none => rw [List.filterMap_cons_none ha]
    | some x => rw [List.filterMap_cons_some ha, winner_append_cons_of_mem (hoffer x ha)]

theorem config_renumber_id (c : Config) : c.renumber id = c := by
  have hframes : c.stack.above.map (Frame.renumber id) = c.stack.above := List.map_id _
  rw [Config.renumber, ModeStack.renumber, hframes]
  rfl

/-- After paring the same match wins, as nothing opens the default mode. -/
theorem sameWinners_of_paredTo (hg : g.defaultMode.beginPattern = none) (hname : g'.name = g.name)
    (h : ∀ i, (g.mode i).ParedTo (g'.mode i)) : SameWinners g g' id where
  name := hname
  start := rfl
  className i := by
    obtain ⟨_, -, hmode⟩ := h i
    rw [id, hmode]
  winner text c := by
    have hbegin : ∀ child, (g'.mode child).beginPattern = (g.mode child).beginPattern := by
      intro child
      obtain ⟨_, -, hmode⟩ := h child
      rw [hmode]
    have hvoid : (g.mode 0).beginPattern = none := hg
    have hid : Boundary.renumber id = id := funext boundary_renumber_id
    obtain ⟨kept, hkept, htop⟩ := h c.stack.top.mode
    rw [config_renumber_id, hid, Option.map_id, id]
    simp only [offers, htop, hbegin]
    apply winner_of_pares hkept
    · simp [hvoid]
    · intro child hchild
      cases hchild

end Lexer

/-! ## Reading a text -/

namespace Grammar

open Lexer

theorem ne_enter_zero_of_path {g : Grammar} {text : List Char} {c c' : Config}
    {bs : List Boundary} (hg : g.defaultMode.beginPattern = none) (h : Path g text c bs c') :
    ∀ b ∈ bs, b.transition ≠ .enter 0 := by
  induction h with
  | nil => exact nofun
  | @cons c c' b bs hw _ _ ih =>
    intro b' hb'
    rcases List.mem_cons.1 hb' with rfl | hb'
    · obtain ⟨t, f⟩ := b'
      rintro rfl
      obtain ⟨-, p, hp, -⟩ := enter_of_offer hw.mem
      cases hg.symm.trans hp
    · exact ih b' hb'

/-- **Redundant references make no difference.** Take a definition that is accepted. Leave out of
what its modes contain any references to the default mode, and any that repeat an earlier one of the
same mode. The pared definition is accepted as well, and with it reading gives for every text, under
whatever limits, what it gives with the first one. Reading never enters the default mode anew. -/
theorem lex_of_paredTo {name : String} {d d' : GrammarDefinition} {g : Grammar}
    (h : compile name d = .ok g) (hd : d.ParedTo d') :
    (∃ g', compile name d' = .ok g' ∧
      ∀ text options, g'.lex text options = g.lex text options) ∧
      ∀ text options, ∀ b ∈ g.trace text options, b.transition ≠ .enter 0 := by
  have hbare := (bare_of_compile h).1
  obtain ⟨g', h', hname, hpared⟩ := exists_compile_of_paredTo h hd
  have hwinners := sameWinners_of_paredTo hbare hname hpared
  have hmodes : ∀ i, ∃ contains, g'.mode (id i) = { g.mode i with contains } := by
    intro i
    obtain ⟨kept, -, hmode⟩ := hpared i
    exact ⟨kept, hmode⟩
  constructor
  · refine ⟨g', h', ?_⟩
    intro text options
    have hcarries : Carries (g.job text options) g' id Eq :=
      carries_eq_of_sameWinners hwinners hmodes
    exact (lex_of_sameWinners hwinners text options hcarries).1.eq
  · intro text options
    obtain ⟨c, hpath, -, -⟩ := lex_spec g text options
    exact ne_enter_zero_of_path hbare hpath

/-- Heaps in braces, with redundant references to themselves and to the default mode. -/
def heaps : GrammarDefinition where
  name := "heaps"
  defaultMode := ({} : ModeDefinition).containing
    ["heap", defaultModeReference, "heap", defaultModeReference]
  modes := [(ModeDefinition.bounded "heap" "\\x7b" "\\x7d").containing
    [defaultModeReference, "heap", "heap"]]

/-- Heaps with some of these references left out. -/
def paredHeaps : GrammarDefinition where
  name := "heaps"
  defaultMode := ({} : ModeDefinition).containing ["heap", "heap", defaultModeReference]
  modes := [(ModeDefinition.bounded "heap" "\\x7b" "\\x7d").containing ["heap"]]

theorem paredTo_paredHeaps : heaps.ParedTo paredHeaps where
  name := rfl
  options := rfl
  defaultMode := ⟨_, .keep (.leave (.inl rfl) (.keep (.keep (.nil _)))), rfl⟩
  modes := .cons ⟨_, .leave (.inl rfl) (.keep (.leave (.inr (by decide)) (.nil _))), rfl⟩ .nil

/-- Heaps in heaps are opened and closed as before, up to the one that is left open. -/
theorem lex_of_paredTo_heaps :
    ∃ g g' out, compile "heaps" heaps = .ok g ∧ heaps.ParedTo paredHeaps ∧
      compile "heaps" paredHeaps = .ok g' ∧ (g.mode 1).contains = [0, 1, 1] ∧
      g.lex "é\x7b\x7b\x7da" {} = .ok out ∧
      out.spans = [⟨"", "é", 0⟩, ⟨"heap", "\x7b", 2⟩, ⟨"heap", "\x7b\x7d", 3⟩, ⟨"heap", "a", 5⟩] ∧
      g'.lex "é\x7b\x7b\x7da" {} = .ok out ∧
      ∀ b ∈ g.trace "é\x7b\x7b\x7da" {}, b.transition ≠ .enter 0 := by
  have hrun : ((compile "heaps" heaps).toOption.bind fun g =>
      (g.lex "é\x7b\x7b\x7da" {}).toOption.map fun out => (out.spans, (g.mode 1).contains)) =
      some ([⟨"", "é", 0⟩, ⟨"heap", "\x7b", 2⟩, ⟨"heap", "\x7b\x7d", 3⟩, ⟨"heap", "a", 5⟩],
        [0, 1, 1]) := by
    decide +kernel
  obtain ⟨g, hg, hlex⟩ := Option.bind_eq_some_iff.1 hrun
  obtain ⟨out, hout, hvalues⟩ := Option.map_eq_some_iff.1 hlex
  obtain ⟨hspans, hcontains⟩ := Prod.mk.inj hvalues
  rw [Except.toOption_eq_some_iff] at hg hout
  obtain ⟨⟨g', hg', hsame⟩, hnever⟩ := lex_of_paredTo hg paredTo_paredHeaps
  exact ⟨g, g', out, hg, paredTo_paredHeaps, hg', hcontains, hout, hspans,
    (hsame _ _).trans hout, hnever _ _⟩

end Grammar

end Tint
