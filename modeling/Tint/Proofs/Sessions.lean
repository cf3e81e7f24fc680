import Mathlib.Data.List.DropRight
import Tint.Proofs.Compile
import Tint.Registry

/-!
# Registries over whole sessions

A session is a sequence of requests to a registry that is empty at the start. What it comes to is
said of lists of entries alone (`Serves`, and `Follows` for one request after the other): a name is
registered once, without the white space around it, and goes to the end; a removal takes one entry
out and leaves the others where they are; and what is refused leaves no trace.

**Request (`serves_serve`).** A registry answers a request as the rule says, and its entries change
as the rule says. The name of a grammar is trimmed where it is registered and once more where it is
compiled, and both give the same (`trim_trim`), so a grammar is kept under the name that was looked
up before. Looking it up once more, after the grammar is compiled, refuses nothing
(`registerAs_eq`).

**Invariant (`Keyed.serves`).** The names stay different, trimmed and not empty, and each is the
name of its grammar.

**Theorem (`session_follows`).** So every session follows the rule, and all that can be asked of the
registry after it agrees with the entries.
-/

namespace Tint

/-! ## Trimmed texts -/

namespace Unicode

theorem trim_eq_rdropWhile (s : String) :
    trim s = String.ofList ((s.toList.dropWhile blank.mem).rdropWhile blank.mem) := rfl

theorem trim_trim (s : String) : trim (trim s) = trim s := by
  rw [trim_eq_rdropWhile (trim s), trim_eq_rdropWhile s, String.toList_ofList]
  generalize hstart : s.toList.dropWhile blank.mem = start
  -- what is left of the text starts as it did before its end was trimmed
  have hkept : (start.rdropWhile blank.mem).dropWhile blank.mem = start.rdropWhile blank.mem := by
    refine List.dropWhile_eq_self_iff.2 fun hpos => ?_
    have hbefore := List.rdropWhile_prefix blank.mem start
    have hstartPos : 0 < start.length := Nat.lt_of_lt_of_le hpos hbefore.length_le
    rw [hbefore.getElem]
    exact List.dropWhile_eq_self_iff.1 (hstart ▸ List.dropWhile_idempotent ..) hstartPos
  rw [hkept, List.rdropWhile_idempotent]

end Unicode

namespace Registry

open Grammar

/-! ## Sessions -/

/-- What may be asked of a registry. -/
inductive Request where
  | register (d : GrammarDefinition)
  | registerAs (name : String) (d : GrammarDefinition)
  | unregister (name : String)

/-- What a registry answers. -/
inductive Answer where
  | registered
  | refused (fault : ConfigError)
  | removed (existed : Bool)
deriving DecidableEq, Repr

/-- A registration that fails gives no registry, so the one that was there is kept. -/
def afterRegistration (r : Registry) : Except ConfigError Registry → Answer × Registry
  | .ok r' => (.registered, r')
  | .error fault => (.refused fault, r)

/-- Serve one request. -/
def serve (r : Registry) : Request → Answer × Registry
  | .register d => r.afterRegistration (r.register d)
  | .registerAs name d => r.afterRegistration (r.registerAs name d)
  | .unregister name => (.removed (r.unregister name).1, (r.unregister name).2)

/-- Serve requests one after the other. -/
def session (r : Registry) : List Request → List Answer × Registry
  | [] => ([], r)
  | q :: qs =>
    let (a, r') := r.serve q
    let (as, last) := r'.session qs
    (a :: as, last)

/-! ## The rule -/

/-- What a request does to the entries of a registry, and how it is answered. -/
inductive Serves : List (String × Grammar) → Request → Answer → List (String × Grammar) → Prop
  /-- A name that is taken is refused, whatever the definition is. -/
  | taken {entries : List (String × Grammar)} {name : String} (d : GrammarDefinition) :
      Unicode.trim name ∈ entries.map Prod.fst →
      Serves entries (.registerAs name d) (.refused (.duplicateGrammar (Unicode.trim name))) entries
  | faulty {entries : List (String × Grammar)} {name : String} {d : GrammarDefinition}
      {fault : ConfigError} :
      Unicode.trim name ∉ entries.map Prod.fst → compile name d = .error fault →
      Serves entries (.registerAs name d) (.refused fault) entries
  | added {entries : List (String × Grammar)} {name : String} {d : GrammarDefinition}
      {g : Grammar} :
      Unicode.trim name ∉ entries.map Prod.fst → compile name d = .ok g →
      Serves entries (.registerAs name d) .registered (entries ++ [(Unicode.trim name, g)])
  | underOwnName {entries entries' : List (String × Grammar)} {d : GrammarDefinition}
      {a : Answer} :
      Serves entries (.registerAs d.name d) a entries' → Serves entries (.register d) a entries'
  | removed (before after : List (String × Grammar)) (name : String) (g : Grammar) :
      Serves (before ++ (name, g) :: after) (.unregister name) (.removed true) (before ++ after)
  | missing {entries : List (String × Grammar)} {name : String} :
      name ∉ entries.map Prod.fst →
      Serves entries (.unregister name) (.removed false) entries

/-- What requests do one after the other. -/
inductive Follows : List (String × Grammar) → List Request → List Answer →
    List (String × Grammar) → Prop
  | nil (entries : List (String × Grammar)) : Follows entries [] [] entries
  | cons {entries entries' last : List (String × Grammar)} {q : Request} {qs : List Request}
      {a : Answer} {as : List Answer} :
      Serves entries q a entries' → Follows entries' qs as last →
      Follows entries (q :: qs) (a :: as) last

variable {r r' : Registry} {entries entries' : List (String × Grammar)} {q : Request} {a : Answer}

/-! ## One request -/

theorem compile_trim (name : String) (d : GrammarDefinition) :
    compile (Unicode.trim name) d = compile name d := by
  simp only [compile, Unicode.trim_trim]

/-- A compiled grammar has the name that was found free, so the second look at it never refuses. -/
theorem registerAs_eq (r : Registry) (name : String) (d : GrammarDefinition) :
    r.registerAs name d =
      if r.contains (Unicode.trim name) then .error (.duplicateGrammar (Unicode.trim name))
      else (compile name d).map fun g => { grammars := r.grammars.put (Unicode.trim name) g } := by
  simp only [registerAs, compile_trim]
  split
  · rfl
  · next hfree =>
    cases hcompile : compile name d with
    | error fault => rfl
    | ok g =>
      have hname : g.name = Unicode.trim name := (compile_eq_ok_iff.1 hcompile).name_eq
      simp only [bind, Except.bind, hname, if_neg hfree]
      rfl

/-- A registration finds its name taken, or its definition at fault, or adds an entry at the
end. -/
theorem registerAs_cases (r : Registry) (name : String) (d : GrammarDefinition) :
    (Unicode.trim name ∈ r.names ∧
        r.registerAs name d = .error (.duplicateGrammar (Unicode.trim name))) ∨
      Unicode.trim name ∉ r.names ∧
        ((∃ fault, compile name d = .error fault ∧ r.registerAs name d = .error fault) ∨
          ∃ g r', compile name d = .ok g ∧ r.registerAs name d = .ok r' ∧
            r'.grammars.entries = r.grammars.entries ++ [(Unicode.trim name, g)]) := by
  have hcontains : r.contains (Unicode.trim name) = true ↔ Unicode.trim name ∈ r.names :=
    OrderedMap.contains_eq_true_iff
  rw [registerAs_eq]
  by_cases htaken : Unicode.trim name ∈ r.names
  · rw [if_pos (hcontains.2 htaken)]
    exact .inl ⟨htaken, rfl⟩
  · rw [if_neg (mt hcontains.1 htaken)]
    refine .inr ⟨htaken, ?_⟩
    cases hcompile : compile name d with
    | error fault => exact .inl ⟨fault, rfl, rfl⟩
    | ok g => exact .inr ⟨g, _, rfl, rfl, OrderedMap.entries_put htaken g⟩

theorem serves_registerAs (r : Registry) (name : String) (d : GrammarDefinition) :
    Serves r.grammars.entries (.registerAs name d) (r.afterRegistration (r.registerAs name d)).1
      (r.afterRegistration (r.registerAs name d)).2.grammars.entries := by
  rcases registerAs_cases r name d with
    ⟨htaken, hr⟩ | ⟨hfree, ⟨fault, hcompile, hr⟩ | ⟨g, r', hcompile, hr, hentries⟩⟩
  · rw [hr]
    exact .taken d htaken
  · rw [hr]
    exact .faulty hfree hcompile
  · rw [hr]
    have hadded := Serves.added hfree hcompile
    rwa [← hentries] at hadded

theorem serves_unregister (r : Registry) (name : String) :
    Serves r.grammars.entries (.unregister name) (.removed (r.unregister name).1)
      (r.unregister name).2.grammars.entries := by
  have hkeep : ∀ l : List (String × Grammar), name ∉ l.map Prod.fst →
      l.filter (fun e => e.1 != name) = l := by
    intro l hl
    refine List.filter_eq_self.2 fun e he => ?_
    simpa using fun heq : e.1 = name => hl (heq ▸ List.mem_map_of_mem he)
  have hentries : (r.unregister name).2.grammars.entries =
      r.grammars.entries.filter fun e => e.1 != name := rfl
  by_cases hname : name ∈ r.names
  · have hexisted : (r.unregister name).1 = true := OrderedMap.contains_eq_true_iff.2 hname
    obtain ⟨⟨k, g⟩, hmem, rfl⟩ := List.mem_map.1 hname
    obtain ⟨before, after, hsplit⟩ := List.append_of_mem hmem
    have hnodup := r.grammars.nodup
    rw [hsplit, List.map_append, List.map_cons, List.nodup_append, List.nodup_cons] at hnodup
    obtain ⟨-, ⟨hafter, -⟩, hbefore⟩ := hnodup
    rw [hexisted, hentries, hsplit, List.filter_append,
      hkeep before fun h => hbefore _ h _ List.mem_cons_self rfl,
      List.filter_cons_of_neg (by simp), hkeep after hafter]
    exact .removed before after k g
  · have hexisted : (r.unregister name).1 = false := by
      rw [← Bool.not_eq_true]
      exact mt OrderedMap.contains_eq_true_iff.1 hname
    rw [hexisted, hentries, hkeep _ hname]
    exact .missing hname

/-- A registry serves a request as the rule says. -/
theorem serves_serve (r : Registry) (q : Request) :
    Serves r.grammars.entries q (r.serve q).1 (r.serve q).2.grammars.entries := by
  cases q with
  | register d => exact .underOwnName (serves_registerAs r d.name d)
  | registerAs name d => exact serves_registerAs r name d
  | unregister name => exact serves_unregister r name

/-! ## The names -/

/-- The names of the entries are different, and each is trimmed, not empty, and the name of its
grammar. -/
structure Keyed (entries : List (String × Grammar)) : Prop where
  nodup : (entries.map Prod.fst).Nodup
  trimmed : ∀ e ∈ entries, Unicode.trim e.1 = e.1
  ne_empty : ∀ e ∈ entries, e.1 ≠ ""
  name_eq : ∀ e ∈ entries, e.2.name = e.1

theorem keyed_nil : Keyed [] where
  nodup := .nil
  trimmed _ he := absurd he List.not_mem_nil
  ne_empty _ he := absurd he List.not_mem_nil
  name_eq _ he := absurd he List.not_mem_nil

theorem Keyed.sublist (h : Keyed entries) (hsub : entries'.Sublist entries) : Keyed entries' where
  nodup := h.nodup.sublist (hsub.map _)
  trimmed e he := h.trimmed e (hsub.mem he)
  ne_empty e he := h.ne_empty e (hsub.mem he)
  name_eq e he := h.name_eq e (hsub.mem he)

theorem Keyed.concat {name : String} {d : GrammarDefinition} {g : Grammar} (h : Keyed entries)
    (hfree : Unicode.trim name ∉ entries.map Prod.fst) (hcompile : compile name d = .ok g) :
    Keyed (entries ++ [(Unicode.trim name, g)]) := by
  have hg := compile_eq_ok_iff.1 hcompile
  have hall : ∀ {P : String × Grammar → Prop}, (∀ e ∈ entries, P e) → P (Unicode.trim name, g) →
      ∀ e ∈ entries ++ [(Unicode.trim name, g)], P e := by
    intro P hentries hnew e he
    rcases List.mem_append.1 he with he | he
    · exact hentries e he
    · rw [List.mem_singleton.1 he]
      exact hnew
  refine ⟨?_, hall h.trimmed (Unicode.trim_trim name), hall h.ne_empty hg.name_ne,
    hall h.name_eq hg.name_eq⟩
  rw [List.map_append, List.map_singleton]
  refine List.nodup_append.2 ⟨h.nodup, List.pairwise_singleton _ _, ?_⟩
  intro k hk k' hk' heq
  rw [heq, List.mem_singleton.1 hk'] at hk
  exact hfree hk

/-- Every request keeps the names in order. -/
theorem Keyed.serves (h : Keyed entries) (hs : Serves entries q a entries') : Keyed entries' := by
  induction hs with
  | taken => exact h
  | faulty => exact h
  | added hfree hcompile => exact h.concat hfree hcompile
  | underOwnName _ ih => exact ih h
  | removed before after name g =>
    exact h.sublist (List.Sublist.append_left (List.sublist_cons_self _ _) _)
  | missing => exact h

/-! ## What can be asked -/

/-- All that can be asked of a registry agrees with these entries. -/
structure Shows (r : Registry) (entries : List (String × Grammar)) : Prop where
  names : r.names = entries.map Prod.fst
  all : r.all = entries.map Prod.snd
  size : r.size = entries.length
  isEmpty : r.isEmpty = true ↔ entries = []
  contains : ∀ name, r.contains name = true ↔ name ∈ entries.map Prod.fst
  get? : ∀ name g, r.get? name = some g ↔ (name, g) ∈ entries

theorem shows_entries (r : Registry) : r.Shows r.grammars.entries where
  names := rfl
  all := rfl
  size := rfl
  isEmpty := List.isEmpty_iff
  contains _ := OrderedMap.contains_eq_true_iff
  get? _ _ := OrderedMap.get?_eq_some_iff

/-! ## Whole sessions -/

theorem session_spec (r : Registry) (qs : List Request) (h : Keyed r.grammars.entries) :
    Follows r.grammars.entries qs (r.session qs).1 (r.session qs).2.grammars.entries ∧
      Keyed (r.session qs).2.grammars.entries := by
  induction qs generalizing r with
  | nil => exact ⟨.nil _, h⟩
  | cons q qs ih =>
    have hserves := serves_serve r q
    obtain ⟨hfollows, hkeyed⟩ := ih (r.serve q).2 (h.serves hserves)
    exact ⟨.cons hserves hfollows, hkeyed⟩

/-- **A registry is an ordered map over whole sessions.** After any sequence of requests to a
registry that was empty, the answers and the entries are those that the rule gives. A name that is
taken is refused, be the definition sound or not; then a definition is refused for its first fault;
neither changes any entry. Otherwise the grammar comes last, under its trimmed name. A removal takes
out the entry with exactly this name and says whether there was one. The names are different,
trimmed, not empty, and those of the grammars, and every question is answered from the entries. -/
theorem session_follows (qs : List Request) :
    ∃ entries, Follows [] qs (empty.session qs).1 entries ∧ Keyed entries ∧
      (empty.session qs).2.Shows entries := by
  obtain ⟨hfollows, hkeyed⟩ := session_spec empty qs keyed_nil
  exact ⟨_, hfollows, hkeyed, shows_entries _⟩

/-- Blocks that nothing opens. -/
def openless : GrammarDefinition :=
  { blocks with modes := blocks.modes.map fun m => { m with beginSource := none } }

/-- A grammar is registered under two names. A taken name is refused before the faulty definition is
looked at, a name is removed only as it stands, and one that comes back comes last. -/
theorem session_follows_blocks :
    ∃ entries, Follows []
        [.registerAs " a " blocks, .register blocks, .registerAs "a\n" openless,
          .registerAs "b" openless, .unregister "a ", .unregister "a", .registerAs "a" blocks]
        [.registered, .registered, .refused (.duplicateGrammar "a"),
          .refused (.missingPattern "b" "block" .beginPattern), .removed false, .removed true,
          .registered] entries ∧
      Keyed entries ∧ entries.map Prod.fst = ["blocks", "a"] := by
  generalize hqs : [Request.registerAs " a " blocks, .register blocks, .registerAs "a\n" openless,
    .registerAs "b" openless, .unregister "a ", .unregister "a", .registerAs "a" blocks] = qs
  have hrun : ((empty.session qs).1, (empty.session qs).2.names) =
      ([.registered, .registered, .refused (.duplicateGrammar "a"),
        .refused (.missingPattern "b" "block" .beginPattern), .removed false, .removed true,
        .registered], ["blocks", "a"]) := by
    subst hqs
    decide +kernel
  obtain ⟨hanswers, hnames⟩ := Prod.mk.inj hrun
  obtain ⟨entries, hfollows, hkeyed, hshows⟩ := session_follows qs
  rw [hanswers] at hfollows
  exact ⟨entries, hfollows, hkeyed, hshows.names.symm.trans hnames⟩

end Registry

end Tint
