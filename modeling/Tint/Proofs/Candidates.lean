import Tint.Highlighter
import Tint.Proofs.Detection
import Tint.Proofs.Selection

/-!
# How candidates are listed does not matter

Of two grammars with the same score the first one is chosen, so the order of the candidates matters.
It is the order of registration: in what order names are given, and how often, is lost when they are
looked up.

**Entries (`select_eq_filter`).** A selection has the grammars of the entries whose names are given.
So it depends on the set of names, and on these entries and their order.

**Other grammars (`filter_serve`).** A request that is about another name takes none of these
entries out, puts none in, and moves none of them past another.

**Theorem (`detect_candidates`).** So the language of a text is the same for all lists of the same
names, whatever is done with other grammars in between, and to list all grammars is to list none.
-/

namespace Tint

namespace Registry

open Grammar

variable {r : Registry} {entries entries' : List (String × Grammar)} {names names' : List String}
  {q : Request} {qs : List Request} {a : Answer}

/-! ## Selected entries -/

/-- What a selection of registered names has are the grammars of their entries. -/
theorem select_eq_filter (hkeyed : Keyed r.grammars.entries) (hne : names ≠ [])
    (h : ∀ name ∈ names, name ∈ r.names) :
    r.select names = .ok ((r.grammars.entries.filter fun e => e.1 ∈ names).map Prod.snd) := by
  have hentries : r.grammars.entries ≠ [] := by
    obtain ⟨name, hname⟩ := List.exists_mem_of_ne_nil names hne
    intro hnil
    have hregistered := h name hname
    rw [Registry.names, OrderedMap.names, hnil] at hregistered
    cases hregistered
  rw [select_eq_ok hkeyed hentries hne h, all, OrderedMap.values, List.filter_map]
  congr 2
  refine List.filter_congr fun e he => ?_
  rw [Function.comp_apply, hkeyed.name_eq e he]

theorem select_nil_eq (hkeyed : Keyed r.grammars.entries) (hne : names ≠ [])
    (h : ∀ name ∈ names, name ∈ r.names) (hall : ∀ name ∈ r.names, name ∈ names) :
    r.select [] = r.select names := by
  have hsome : r.isEmpty = false := by
    obtain ⟨name, hname⟩ := List.exists_mem_of_ne_nil names hne
    obtain ⟨e, he, -⟩ := List.mem_map.1 (h name hname)
    simpa [isEmpty, OrderedMap.isEmpty] using List.ne_nil_of_mem he
  have hkept : r.grammars.entries.filter (fun e => e.1 ∈ names) = r.grammars.entries :=
    List.filter_eq_self.2 fun e he => by simpa using hall e.1 (List.mem_map_of_mem he)
  rw [select_eq_filter hkeyed hne h, hkept]
  simp [select, hsome, all, OrderedMap.values]

/-! ## Requests about other names -/

/-- The name that a request is about. -/
def Request.name : Request → String
  | register d => Unicode.trim d.name
  | registerAs name _ => Unicode.trim name
  | unregister name => name

/-- A request about another name leaves the entries with these names as they are. -/
theorem Serves.filter_eq (h : Serves entries q a entries') (hq : q.name ∉ names) :
    entries'.filter (fun e => e.1 ∈ names) = entries.filter fun e => e.1 ∈ names := by
  induction h with
  | taken => rfl
  | faulty => rfl
  | added =>
    have hother : Unicode.trim _ ∉ names := hq
    simp [hother]
  | underOwnName _ ih => exact ih hq
  | removed before after name g =>
    have hother : name ∉ names := hq
    simp [hother]
  | missing => rfl

theorem filter_serve (r : Registry) (hq : q.name ∉ names) :
    (r.serve q).2.grammars.entries.filter (fun e => e.1 ∈ names) =
      r.grammars.entries.filter fun e => e.1 ∈ names :=
  (serves_serve r q).filter_eq hq

theorem filter_session (r : Registry) (hqs : ∀ q ∈ qs, q.name ∉ names) :
    (r.session qs).2.grammars.entries.filter (fun e => e.1 ∈ names) =
      r.grammars.entries.filter fun e => e.1 ∈ names := by
  induction qs generalizing r with
  | nil => rfl
  | cons q qs ih =>
    obtain ⟨hq, hqs⟩ := List.forall_mem_cons.1 hqs
    exact (ih (r.serve q).2 hqs).trans (filter_serve r hq)

/-- Names stay registered while requests are about other names. -/
theorem mem_names_session (hqs : ∀ q ∈ qs, q.name ∉ names) {name : String} (hname : name ∈ names)
    (h : name ∈ r.names) : name ∈ (r.session qs).2.names := by
  obtain ⟨e, he, rfl⟩ := List.mem_map.1 h
  have hkept : e ∈ r.grammars.entries.filter fun e => e.1 ∈ names :=
    List.mem_filter.2 ⟨he, by simpa using hname⟩
  rw [← filter_session r hqs] at hkept
  exact List.mem_map_of_mem (List.mem_filter.1 hkept).1

end Registry

namespace Highlighter

open Registry

variable {h h' : Highlighter} {names names' : List String} {qs : List Request} {text : String}

/-! ## Highlighters that can be reached -/

/-- A highlighter after requests to its registry. -/
def after (h : Highlighter) (qs : List Request) : Highlighter :=
  { h with registry := (h.registry.session qs).2 }

/-- The highlighters that a program can come by. -/
inductive Reached : Highlighter → Prop
  | empty : Reached .empty
  | bundled {h : Highlighter} : withBundled = .ok h → Reached h
  | options {h : Highlighter} (options : LexOptions) : Reached h → Reached { h with options }
  | after {h : Highlighter} (qs : List Request) : Reached h → Reached (h.after qs)

theorem eq_after_of_registerAs {name : String} {d : GrammarDefinition}
    (hok : h.registerAs name d = .ok h') : h' = h.after [.registerAs name d] := by
  rw [registerAs] at hok
  cases hr : h.registry.registerAs name d with
  | error e =>
    rw [hr] at hok
    cases hok
  | ok r =>
    rw [hr] at hok
    cases hok
    simp [Highlighter.after, session, serve, hr, afterRegistration]

theorem after_append (h : Highlighter) (qs qs' : List Request) :
    h.after (qs ++ qs') = (h.after qs).after qs' := by
  induction qs generalizing h with
  | nil => rfl
  | cons q qs ih => exact ih { h with registry := (h.registry.serve q).2 }

theorem exists_after_of_foldlM {ds : List GrammarDefinition} (hok : ds.foldlM register h = .ok h') :
    ∃ qs, h' = h.after qs := by
  induction ds generalizing h with
  | nil =>
    cases hok
    exact ⟨[], rfl⟩
  | cons d ds ih =>
    rw [List.foldlM_cons, Except.bind_eq_ok_iff] at hok
    obtain ⟨next, hnext, hok⟩ := hok
    obtain ⟨qs, rfl⟩ := ih hok
    rw [eq_after_of_registerAs hnext, ← after_append]
    exact ⟨_, rfl⟩

theorem keyed_after (hkeyed : Keyed h.registry.grammars.entries) (qs : List Request) :
    Keyed (h.after qs).registry.grammars.entries :=
  (session_spec h.registry qs hkeyed).2

theorem Reached.keyed (hreached : h.Reached) : Keyed h.registry.grammars.entries := by
  induction hreached with
  | empty => exact keyed_nil
  | bundled hok =>
    obtain ⟨qs, rfl⟩ := exists_after_of_foldlM hok
    exact keyed_after keyed_nil qs
  | options _ _ ih => exact ih
  | after qs _ ih => exact keyed_after ih qs

/-! ## Detecting a language -/

theorem detect_eq_of_select (hselect : h'.registry.select names' = h.registry.select names)
    (hoptions : h'.options = h.options) : h'.detect text names' = h.detect text names := by
  simp only [detect, hselect, hoptions]

theorem exists_detect_of_ne_nil {grammars : List Grammar} (hne : grammars ≠ []) (text : String)
    (options : LexOptions) : ∃ d, Tint.detect text grammars options = .ok d ∧
      d.scores = grammars.map fun g => g.score text options := by
  obtain ⟨first, rest, rfl⟩ := List.exists_cons_of_ne_nil hne
  exact ⟨_, rfl, rfl⟩

/-- Registered names, one at least, always give a language, and their scores are in the order of
registration. -/
theorem exists_detect (hreached : h.Reached) (hne : names ≠ [])
    (hregistered : ∀ name ∈ names, name ∈ h.registry.names) (text : String) :
    ∃ d, h.detect text names = .ok d ∧
      d.scores.map (·.language) = h.registry.names.filter fun name => name ∈ names := by
  have hkeyed := hreached.keyed
  have hselect := select_eq_filter hkeyed hne hregistered
  have hsome : (h.registry.grammars.entries.filter fun e => e.1 ∈ names).map Prod.snd ≠ [] := by
    obtain ⟨name, hname⟩ := List.exists_mem_of_ne_nil names hne
    obtain ⟨e, he, rfl⟩ := List.mem_map.1 (hregistered name hname)
    refine List.ne_nil_of_mem (List.mem_map_of_mem (a := e) ?_)
    exact List.mem_filter.2 ⟨he, by simpa using hname⟩
  obtain ⟨d, hd, hscores⟩ := exists_detect_of_ne_nil hsome text h.options
  refine ⟨d, by rw [detect, hselect]; exact hd, ?_⟩
  rw [hscores, Registry.names, OrderedMap.names, List.filter_map, List.map_map, List.map_map]
  refine List.map_congr_left fun e he => ?_
  have hname := hkeyed.name_eq e (List.mem_filter.1 he).1
  exact (e.2.scoresAs_score text h.options).language.trans hname

/-- **The language of a text does not depend on how the candidates are listed.** Take registered
names, one at least. Every list of the same names, in any order and with any repetitions, gives the
same language, relevance and scores; so it does after requests about other names. A list of all
names gives the same as a list of none. The scores are in the order of registration. -/
theorem detect_candidates (hreached : h.Reached) (hne : names ≠ [])
    (hregistered : ∀ name ∈ names, name ∈ h.registry.names)
    (hsame : ∀ name, name ∈ names' ↔ name ∈ names) (hqs : ∀ q ∈ qs, q.name ∉ names)
    (text : String) :
    ∃ d, h.detect text names = .ok d ∧
      d.scores.map (·.language) = h.registry.names.filter (fun name => name ∈ names) ∧
      h.detect text names' = .ok d ∧ (h.after qs).detect text names' = .ok d ∧
      ((∀ name ∈ h.registry.names, name ∈ names) → h.detect text [] = .ok d) := by
  have hkeyed := hreached.keyed
  obtain ⟨d, hd, hlanguages⟩ := exists_detect hreached hne hregistered text
  have hne' : names' ≠ [] := by
    obtain ⟨name, hname⟩ := List.exists_mem_of_ne_nil names hne
    exact List.ne_nil_of_mem ((hsame name).2 hname)
  have hregistered' : ∀ name ∈ names', name ∈ h.registry.names := fun name hname =>
    hregistered name ((hsame name).1 hname)
  have hqs' : ∀ q ∈ qs, q.name ∉ names' := fun q hq hname => hqs q hq ((hsame _).1 hname)
  have hlisted : h.registry.select names' = h.registry.select names := by
    simp only [select_eq_filter hkeyed hne hregistered, select_eq_filter hkeyed hne' hregistered',
      hsame]
  have hlater : (h.after qs).registry.select names' = h.registry.select names' := by
    have hregisteredLater : ∀ name ∈ names', name ∈ (h.after qs).registry.names :=
      fun name hname => mem_names_session hqs' hname (hregistered' name hname)
    rw [select_eq_filter (keyed_after hkeyed qs) hne' hregisteredLater,
      select_eq_filter hkeyed hne' hregistered']
    exact congrArg (fun es => Except.ok (List.map Prod.snd es)) (filter_session h.registry hqs')
  refine ⟨d, hd, hlanguages, ?_, ?_, ?_⟩
  · rw [detect_eq_of_select hlisted rfl, hd]
  · rw [detect_eq_of_select (hlater.trans hlisted) rfl, hd]
  · intro hall
    rw [detect_eq_of_select (select_nil_eq hkeyed hne hregistered hall) rfl, hd]

/-- Two grammars with the same score, of which the one that is named last was registered first.
Another one was registered before both and is gone, and two more come in and one goes again. -/
theorem detect_candidates_letters :
    ∃ h d, Reached h ∧ h.registry.names = ["b", "a"] ∧
      (∀ name ∈ ["a", "b", "a"], name ∈ h.registry.names) ∧
      (∀ q ∈ [Request.registerAs " d" Grammar.blocks, .registerAs "c" Grammar.letters,
        .unregister "d"], q.name ∉ ["a", "b", "a"]) ∧
      h.detect "x" ["a", "b", "a"] = .ok d ∧ d.scores.map (·.language) = ["b", "a"] ∧
      d.language = "b" ∧ h.detect "x" ["b", "a"] = .ok d ∧
      (h.after [.registerAs " d" Grammar.blocks, .registerAs "c" Grammar.letters,
        .unregister "d"]).detect "x" ["b", "a"] = .ok d ∧
      h.detect "x" [] = .ok d := by
  generalize hstart : Highlighter.empty.after [.registerAs "c" Grammar.letters,
    .registerAs "b" Grammar.letters, .registerAs "a" Grammar.letters, .unregister "c"] = h
  have hrun : (h.registry.names, (h.detect "x" []).toOption.map (·.language)) =
      (["b", "a"], some "b") := by
    subst hstart
    decide +kernel
  obtain ⟨hnames, hlanguage⟩ := Prod.mk.inj hrun
  have hreached : Reached h := hstart ▸ .after _ .empty
  have hregistered : ∀ name ∈ ["a", "b", "a"], name ∈ h.registry.names := by
    rw [hnames]
    decide
  have hqs : ∀ q ∈ [Request.registerAs " d" Grammar.blocks, .registerAs "c" Grammar.letters,
      .unregister "d"], q.name ∉ ["a", "b", "a"] := by
    decide +kernel
  have hsame : ∀ name, name ∈ ["b", "a"] ↔ name ∈ ["a", "b", "a"] := by
    intro name
    simp only [List.mem_cons, List.not_mem_nil, or_false]
    tauto
  obtain ⟨d, hd, hscores, hlisted, hlater, hall⟩ :=
    detect_candidates hreached (List.cons_ne_nil _ _) hregistered hsame hqs "x"
  have hunlisted : h.detect "x" [] = .ok d := hall (by rw [hnames]; decide)
  rw [hunlisted] at hlanguage
  refine ⟨h, d, hreached, hnames, hregistered, hqs, hd, ?_, Option.some.inj hlanguage, hlisted,
    hlater, hunlisted⟩
  rw [hscores, hnames]
  decide

end Highlighter

end Tint
