import Tint.Proofs.Candidates
import Tint.Proofs.Ending

/-!
# Under which name a grammar is found

A name is registered without the white space around it, but looked up as it is given: by `contains`
and `get?`, by a selection, by a removal, and where a text is read. So what a registration leaves
behind is said for two names.

**Found (`registerAs_spec`).** Under the trimmed name all ways lead to the new grammar. It comes
last, so its removal gives the registry that was there before (`erase_put`).

**Missed (`misses_of_trim_ne`).** All names of a registry that can be reached are trimmed. So under
a name with white space around it nothing is found on any way, also if a grammar has just been
registered with this very name (`registerAs_padded_missed`).
-/

namespace Tint

namespace OrderedMap

variable {α : Type} {m : OrderedMap α} {name : String}

theorem erase_of_not_mem (h : name ∉ m.names) : m.erase name = m := by
  refine eq_of_entries (List.filter_eq_self.2 fun e he => ?_)
  simpa using fun heq : e.1 = name => h (heq ▸ List.mem_map_of_mem he)

theorem erase_put (h : name ∉ m.names) (value : α) : (m.put name value).erase name = m := by
  refine eq_of_entries ?_
  have hkept : m.entries.filter (fun e => e.1 != name) = m.entries :=
    congrArg entries (erase_of_not_mem h)
  show (m.put name value).entries.filter (fun e => e.1 != name) = m.entries
  rw [entries_put h, List.filter_append, hkept, List.filter_cons_of_neg (by simp),
    List.filter_nil, List.append_nil]

end OrderedMap

/-- Reading a text with a grammar never fails for want of a grammar. -/
theorem Grammar.lex_ne_unknownLanguage (g : Grammar) (text : String) (options : LexOptions)
    (language : String) : g.lex text options ≠ .error (.unknownLanguage language) := by
  obtain ⟨c, -, -, ⟨-, hlex⟩ | ⟨-, r, hstop, hlex⟩⟩ := lex_spec g text options
  · rw [hlex]
    exact nofun
  · rw [hlex]
    cases hstop <;> exact nofun

namespace Highlighter

open Registry

variable {h h' : Highlighter} {name : String} {d : GrammarDefinition} {g : Grammar}

/-- On every way that leads to grammars by a name, it leads to this one. -/
structure Finds (h : Highlighter) (name : String) (g : Grammar) : Prop where
  contains : h.registry.contains name = true
  get? : h.registry.get? name = some g
  lex : ∀ text, h.lex text name = g.lex text h.options
  known : ∀ text language, h.lex text name ≠ .error (.unknownLanguage language)
  select : h.registry.select [name] = .ok [g]

/-- On every way that leads to grammars by a name, it leads to none, and there is nothing under it
to be removed. -/
structure Misses (h : Highlighter) (name : String) : Prop where
  contains : h.registry.contains name = false
  get? : h.registry.get? name = none
  lex : ∀ text, h.lex text name = .error (.unknownLanguage name)
  select : h.registry.select [name] =
    .error (if h.registry.isEmpty then .noGrammars else .unknownLanguage name)
  unregister : h.registry.unregister name = (false, h.registry)

/-! ## Names that are registered -/

theorem finds_of_mem (hreached : h.Reached) (hmem : (name, g) ∈ h.registry.grammars.entries) :
    h.Finds name g := by
  have hname : name ∈ h.registry.names := List.mem_map_of_mem hmem
  have hget : h.registry.get? name = some g := OrderedMap.get?_eq_some_iff.2 hmem
  have hlex : ∀ text, h.lex text name = g.lex text h.options := by
    intro text
    rw [Highlighter.lex, hget]
  refine ⟨OrderedMap.contains_eq_true_iff.2 hname, hget, hlex, ?_, ?_⟩
  · intro text language
    rw [hlex text]
    exact g.lex_ne_unknownLanguage text h.options language
  · rw [select_eq_filter hreached.keyed (List.cons_ne_nil _ _) (List.forall_mem_singleton.2 hname)]
    -- no other entry has this name
    obtain ⟨before, after, hsplit⟩ := List.append_of_mem hmem
    have hnodup := hreached.keyed.nodup
    rw [hsplit, List.map_append, List.map_cons, List.nodup_append, List.nodup_cons] at hnodup
    obtain ⟨-, ⟨hafter, -⟩, hbefore⟩ := hnodup
    have hbefore : before.filter (fun e => e.1 ∈ [name]) = [] := by
      refine List.filter_eq_nil_iff.2 fun e he hin => ?_
      exact hbefore e.1 (List.mem_map_of_mem he) name List.mem_cons_self (by simpa using hin)
    have hafter : after.filter (fun e => e.1 ∈ [name]) = [] := by
      refine List.filter_eq_nil_iff.2 fun e he hin => hafter ?_
      obtain rfl : e.1 = name := by simpa using hin
      exact List.mem_map.2 ⟨e, he, rfl⟩
    rw [hsplit, List.filter_append, hbefore, List.filter_cons_of_pos (by simp), hafter]
    rfl

theorem misses_of_not_mem (hname : name ∉ h.registry.names) : h.Misses name := by
  have hcontains : h.registry.contains name = false := by
    rw [← Bool.not_eq_true]
    exact mt OrderedMap.contains_eq_true_iff.1 hname
  have hget : h.registry.get? name = none := by
    rw [← Option.not_isSome_iff_eq_none, Bool.not_eq_true]
    exact hcontains
  refine ⟨hcontains, hget, fun text => by rw [Highlighter.lex, hget], ?_, ?_⟩
  · have hplaces := @mapM_place_eq_error h.registry [] [] name (List.forall_mem_nil _) hname
    rw [List.nil_append] at hplaces
    rw [Registry.select]
    split
    · rfl
    · rw [hplaces]
      rfl
  · rw [Registry.unregister, hcontains, OrderedMap.erase_of_not_mem hname]

theorem misses_of_trim_ne (hreached : h.Reached) (hname : Unicode.trim name ≠ name) :
    h.Misses name := by
  refine misses_of_not_mem fun hmem => ?_
  obtain ⟨e, he, rfl⟩ := List.mem_map.1 hmem
  exact hname (hreached.keyed.trimmed e he)

/-! ## Registering a grammar -/

/-- A registration adds an entry for the trimmed name, which its removal takes out again. -/
theorem registerAs_spec (hok : h.registerAs name d = .ok h') :
    ∃ g, Grammar.compile name d = .ok g ∧ h'.options = h.options ∧
      h'.registry.grammars.entries = h.registry.grammars.entries ++ [(Unicode.trim name, g)] ∧
      h'.registry.unregister (Unicode.trim name) = (true, h.registry) := by
  rw [Highlighter.registerAs] at hok
  cases hr : h.registry.registerAs name d with
  | error fault =>
    rw [hr] at hok
    cases hok
  | ok r =>
  rw [hr] at hok
  cases hok
  rcases registerAs_cases h.registry name d with
    ⟨-, hr'⟩ | ⟨hfree, ⟨fault, -, hr'⟩ | ⟨g, r', hcompile, hr', hentries⟩⟩
  · cases hr.symm.trans hr'
  · cases hr.symm.trans hr'
  cases hr.symm.trans hr'
  refine ⟨g, hcompile, rfl, hentries, ?_⟩
  have hput : r.grammars = h.registry.grammars.put (Unicode.trim name) g :=
    OrderedMap.eq_of_entries (hentries.trans (OrderedMap.entries_put hfree g).symm)
  have hexisted : r.contains (Unicode.trim name) = true := by
    refine OrderedMap.contains_eq_true_iff.2 ?_
    rw [OrderedMap.names, hentries]
    simp
  show (r.contains (Unicode.trim name), Registry.mk (r.grammars.erase (Unicode.trim name))) = _
  rw [hexisted, hput, OrderedMap.erase_put hfree]

/-- **A grammar is found under the trimmed name that it was registered with, and under no other
spelling of it.** Take any highlighter that can be reached, any name and any definition. If the
definition is registered under the name, then its grammar is found under the trimmed name on every
way, and its removal restores the registry. So a name without white space around it finds what was
registered with it; a name with white space finds nothing, and its removal removes nothing. -/
theorem registerAs_found (hreached : h.Reached) (hok : h.registerAs name d = .ok h') :
    ∃ g, Grammar.compile name d = .ok g ∧ h'.Finds (Unicode.trim name) g ∧
      h'.registry.unregister (Unicode.trim name) = (true, h.registry) ∧
      (Unicode.trim name = name → h'.Finds name g ∧
        h'.registry.unregister name = (true, h.registry)) ∧
      (Unicode.trim name ≠ name → h'.Misses name ∧ h'.registry.isEmpty = false) := by
  have hreached' : h'.Reached := eq_after_of_registerAs hok ▸ .after _ hreached
  obtain ⟨g, hcompile, -, hentries, hremoved⟩ := registerAs_spec hok
  have hfinds : h'.Finds (Unicode.trim name) g := by
    refine finds_of_mem hreached' ?_
    rw [hentries]
    exact List.mem_append_right _ List.mem_cons_self
  refine ⟨g, hcompile, hfinds, hremoved, ?_, ?_⟩
  · intro htrim
    rw [htrim] at hfinds hremoved
    exact ⟨hfinds, hremoved⟩
  · intro htrim
    have hsome : h'.registry.isEmpty = false := by
      simp [Registry.isEmpty, OrderedMap.isEmpty, hentries]
    exact ⟨misses_of_trim_ne hreached' htrim, hsome⟩

/-- A grammar is registered beside another one, with a blank before its name. -/
theorem registerAs_found_letters :
    ∃ h h' g, Reached h ∧ h.registry.names = ["blocks"] ∧
      h.registerAs " js" Grammar.letters = .ok h' ∧ h'.Finds "js" g ∧
      h'.registry.unregister "js" = (true, h.registry) ∧ Unicode.trim " js" ≠ " js" ∧
      h'.Misses " js" ∧ h'.registry.names = ["blocks", "js"] := by
  have hrun : ((Highlighter.empty.register Grammar.blocks).toOption.bind fun h =>
      (h.registerAs " js" Grammar.letters).toOption.map fun h' =>
        (h.registry.names, h'.registry.names)) = some (["blocks"], ["blocks", "js"]) := by
    decide +kernel
  obtain ⟨h, hok, hrun⟩ := Option.bind_eq_some_iff.1 hrun
  obtain ⟨h', hok', hnames⟩ := Option.map_eq_some_iff.1 hrun
  rw [Except.toOption_eq_some_iff] at hok hok'
  obtain ⟨hnames, hnames'⟩ := Prod.mk.inj hnames
  have hreached : Reached h := eq_after_of_registerAs hok ▸ .after _ .empty
  have htrim : Unicode.trim " js" = "js" := by decide +kernel
  have hne : Unicode.trim " js" ≠ " js" := by decide +kernel
  obtain ⟨g, -, hfinds, hremoved, -, hmisses⟩ := registerAs_found hreached hok'
  rw [htrim] at hfinds hremoved
  exact ⟨h, h', g, hreached, hnames, hok', hfinds, hremoved, hne, (hmisses hne).1, hnames'⟩

/-- A grammar need not be found under the name that it was registered with. With white space around
the name it is missed on every way, and cannot be removed. -/
theorem registerAs_padded_missed :
    ∃ h', Highlighter.empty.registerAs " js " Grammar.letters = .ok h' ∧ h'.Misses " js " ∧
      h'.registry.select [" js "] = .error (.unknownLanguage " js ") := by
  have hrun : ((Highlighter.empty.registerAs " js " Grammar.letters).toOption.map fun h' =>
      h'.registry.names) = some ["js"] := by
    decide +kernel
  obtain ⟨h', hok, hnames⟩ := Option.map_eq_some_iff.1 hrun
  rw [Except.toOption_eq_some_iff] at hok
  have hmisses : h'.Misses " js " := misses_of_not_mem (by rw [hnames]; decide)
  have hsome : h'.registry.isEmpty = false := by
    rw [← Bool.not_eq_true]
    intro hempty
    rw [Registry.names, OrderedMap.names, List.isEmpty_iff.1 hempty] at hnames
    cases hnames
  have hselect := hmisses.select
  rw [hsome] at hselect
  exact ⟨h', hok, hmisses, hselect⟩

end Highlighter

end Tint
