import Tint.Pattern

/-!
# An assertion in front of an automaton

`Automaton.behind` puts an assertion in front of an automaton: one more node, which leads to where
the automaton starts, and to which nothing leads.

**Closed nodes (`closed_build`).** All nodes of the automaton of a term lead to nodes that there
are. So nothing leads to a node that is added after them.

**Budgets (`enter_budget`).** A budget counts the nodes that are entered at one place. What remains
to be done is bounded by the nodes that are not entered yet, each with all that it leads to. A node
that is entered uses up its share of that, so all budgets that cover what remains give the same.

**Theorem (`Sound.matchLength?_behind`).** Threads come to the same nodes with and without the
assertion (`enter_push`, `Sound.advance_behind`). So where it holds, the match is the same, and
elsewhere there is none.

**Terms (`ofTerm_look`).** The automaton of an assertion followed by a term is that of the term with
the assertion in front, although the parts of a sequence are flattened and joined on the way.
-/

namespace Tint.Regex

/-- The nodes that a node leads to. -/
def Node.targets : Node → List Nat
  | .accept => []
  | .char _ next => [next]
  | .set _ next => [next]
  | .look _ next => [next]
  | .choice nexts => nexts

namespace Automaton

/-! ## Nodes that lead to nodes -/

/-- All nodes lead to nodes that there are. -/
def Closed (nodes : Array Node) : Prop := ∀ node ∈ nodes, ∀ k ∈ node.targets, k < nodes.size

/-- Nodes that have been built onto others, and one of them. -/
structure Onto (nodes : Array Node) (built : Nat × Array Node) : Prop where
  lt : built.1 < built.2.size
  closed : Closed built.2
  le : nodes.size ≤ built.2.size

/-- What is built in front of a node of closed nodes leads to nodes that there are. -/
def Builder.Closed (body : Builder) : Prop :=
  ∀ next nodes, next < nodes.size → Automaton.Closed nodes → Onto nodes (body next nodes)

variable {body : Builder} {nodes : Array Node} {built built' : Nat × Array Node}

theorem Onto.trans (h : Onto nodes built) (h' : Onto built.2 built') : Onto nodes built' :=
  ⟨h'.lt, h'.closed, Nat.le_trans h.le h'.le⟩

theorem onto_add (node : Node) (hnodes : Closed nodes)
    (hnode : ∀ k ∈ node.targets, k < nodes.size) : Onto nodes (add node nodes) where
  lt := by simp [add]
  closed := by
    intro other hother k hk
    simp only [add, Array.size_push]
    rcases Array.mem_push.1 hother with hother | rfl
    · exact Nat.lt_succ_of_lt (hnodes other hother k hk)
    · exact Nat.lt_succ_of_lt (hnode k hk)
  le := by simp [add]

theorem closed_same : Builder.Closed fun next nodes => (next, nodes) :=
  fun _ _ hnext hnodes => ⟨hnext, hnodes, Nat.le_refl _⟩

theorem closed_characters (cs : List Char) : Builder.Closed (characters cs) := by
  induction cs with
  | nil => exact closed_same
  | cons c cs ih =>
    intro next nodes hnext hnodes
    have hrest := ih next nodes hnext hnodes
    exact hrest.trans (onto_add _ hrest.closed (List.forall_mem_singleton.2 hrest.lt))

theorem closed_copies (h : body.Closed) (n : Nat) : Builder.Closed (copies body n) := by
  induction n with
  | zero => exact closed_same
  | succ n ih =>
    intro next nodes hnext hnodes
    have hbody := h next nodes hnext hnodes
    exact hbody.trans (ih _ _ hbody.lt hbody.closed)

theorem lt_of_mem_enterOr (greedy : Bool) {enter skip n : Nat} (henter : enter < n)
    (hskip : skip < n) : ∀ k ∈ (enterOr greedy enter skip).targets, k < n := by
  intro k hk
  cases greedy <;> simp [enterOr, Node.targets] at hk <;> omega

theorem onto_optionals (h : body.Closed) (greedy : Bool) {exit next : Nat} (n : Nat)
    (hnext : next < nodes.size) (hexit : exit < nodes.size) (hnodes : Closed nodes) :
    Onto nodes (optionals body greedy exit n next nodes) := by
  induction n generalizing next nodes with
  | zero => exact ⟨hnext, hnodes, Nat.le_refl _⟩
  | succ n ih =>
    have hbody := h next nodes hnext hnodes
    have hchoice := hbody.trans (onto_add _ hbody.closed
      (lt_of_mem_enterOr greedy hbody.lt (Nat.lt_of_lt_of_le hexit hbody.le)))
    exact hchoice.trans (ih hchoice.lt (Nat.lt_of_lt_of_le hexit hchoice.le) hchoice.closed)

theorem onto_loop (h : body.Closed) (greedy : Bool) {next : Nat} (hnext : next < nodes.size)
    (hnodes : Closed nodes) :
    (loop body greedy next nodes).1 < (loop body greedy next nodes).2.2.size ∧
      Onto nodes (loop body greedy next nodes).2 := by
  have hchoice := onto_add (.choice []) hnodes nofun
  have hbody := hchoice.trans (h _ _ hchoice.lt hchoice.closed)
  have hchoice' := Nat.lt_of_lt_of_le hchoice.lt (h _ _ hchoice.lt hchoice.closed).le
  refine ⟨?_, ?_, ?_, ?_⟩
  · rw [loop, Array.size_setIfInBounds]
    exact hchoice'
  · rw [loop, Array.size_setIfInBounds]
    exact hbody.lt
  · intro node hnode
    rw [loop, Array.size_setIfInBounds]
    rcases Array.mem_or_eq_of_mem_setIfInBounds hnode with hnode | rfl
    · exact hbody.closed node hnode
    · exact lt_of_mem_enterOr _ hbody.lt (Nat.lt_of_lt_of_le hnext hbody.le)
  · rw [loop, Array.size_setIfInBounds]
    exact hbody.le

mutual

theorem closed_build : (t : Term) → Builder.Closed (build t)
  | .empty => by
    intro next nodes hnext hnodes
    rw [build]
    exact closed_same next nodes hnext hnodes
  | .literal cs => by
    intro next nodes hnext hnodes
    rw [build]
    exact closed_characters cs next nodes hnext hnodes
  | .set s => by
    intro next nodes hnext hnodes
    rw [build]
    exact onto_add _ hnodes (List.forall_mem_singleton.2 hnext)
  | .look a => by
    intro next nodes hnext hnodes
    rw [build]
    exact onto_add _ hnodes (List.forall_mem_singleton.2 hnext)
  | .capture _ body => by
    intro next nodes hnext hnodes
    rw [build]
    exact closed_build body next nodes hnext hnodes
  | .sequence parts => by
    intro next nodes hnext hnodes
    rw [build]
    exact closed_buildSequence parts next nodes hnext hnodes
  | .alternatives parts => by
    intro next nodes hnext hnodes
    obtain ⟨hstarts, hclosed, hle⟩ := closed_buildEach parts hnext hnodes
    have hchoice : Onto _ _ := onto_add (.choice _) hclosed hstarts
    rw [build]
    exact ⟨hchoice.lt, hchoice.closed, Nat.le_trans hle hchoice.le⟩
  | .repeated min max greedy body => by
    intro next nodes hnext hnodes
    have hbody := closed_build body
    cases max with
    | some max =>
      have hoptionals := onto_optionals hbody greedy (max - min) hnext hnext hnodes
      rw [build]
      exact hoptionals.trans (closed_copies hbody min _ _ hoptionals.lt hoptionals.closed)
    | none =>
      obtain ⟨hchoice, hloop⟩ := onto_loop hbody greedy hnext hnodes
      cases min with
      | zero =>
        rw [build]
        dsimp only
        split
        · exact ⟨hchoice, hloop.closed, hloop.le⟩
        · exact hloop.trans (onto_add _ hloop.closed
            (lt_of_mem_enterOr greedy hloop.lt (Nat.lt_of_lt_of_le hnext hloop.le)))
      | succ min =>
        rw [build]
        exact hloop.trans (closed_copies hbody min _ _ hloop.lt hloop.closed)

theorem closed_buildSequence : (ts : List Term) → Builder.Closed (buildSequence ts)
  | [] => by
    intro next nodes hnext hnodes
    rw [buildSequence]
    exact closed_same next nodes hnext hnodes
  | t :: ts => by
    intro next nodes hnext hnodes
    have hrest := closed_buildSequence ts next nodes hnext hnodes
    rw [buildSequence]
    exact hrest.trans (closed_build t _ _ hrest.lt hrest.closed)

theorem closed_buildEach : (ts : List Term) → {next : Nat} → {nodes : Array Node} →
    next < nodes.size → Closed nodes →
    (∀ k ∈ (buildEach ts next nodes).1, k < (buildEach ts next nodes).2.size) ∧
      Closed (buildEach ts next nodes).2 ∧ nodes.size ≤ (buildEach ts next nodes).2.size
  | [], next, nodes, _, hnodes => by
    rw [buildEach]
    exact ⟨nofun, hnodes, Nat.le_refl _⟩
  | t :: ts, next, nodes, hnext, hnodes => by
    have hfirst := closed_build t next nodes hnext hnodes
    obtain ⟨hstarts, hclosed, hle⟩ := closed_buildEach ts
      (Nat.lt_of_lt_of_le hnext hfirst.le) hfirst.closed
    rw [buildEach]
    refine ⟨?_, hclosed, Nat.le_trans hfirst.le hle⟩
    exact List.forall_mem_cons.2 ⟨Nat.lt_of_lt_of_le hfirst.lt hle, hstarts⟩

end

/-! ## Budgets -/

/-- How many nodes are still entered from nodes that are not entered yet. -/
def unentered : List Node → List Bool → Nat
  | node :: nodes, seen :: rest => (if seen then 0 else node.entries - 1) + unentered nodes rest
  | _, _ => 0

theorem unentered_set {nodes : List Node} {seen : List Bool} {k : Nat} {node : Node}
    (hnode : nodes[k]? = some node) (hseen : seen[k]? = some false) :
    unentered nodes (seen.set k true) + (node.entries - 1) = unentered nodes seen := by
  induction nodes generalizing seen k with
  | nil => cases hnode
  | cons first nodes ih =>
    cases seen with
    | nil => cases hseen
    | cons s seen =>
      cases k with
      | zero =>
        cases hnode
        cases hseen
        simp only [List.set_cons_zero, unentered, if_true, Bool.false_eq_true, if_false]
        omega
      | succ k =>
        have hrest : unentered nodes (seen.set k true) + (node.entries - 1) =
            unentered nodes seen :=
          ih hnode hseen
        simp only [List.set_cons_succ, unentered]
        omega

/-- Counting the entries of all nodes counts those too. -/
theorem unentered_le_foldl (nodes : List Node) (seen : List Bool) (n : Nat) :
    n + unentered nodes seen ≤ nodes.foldl (fun n node => n + node.entries) n := by
  have hle : ∀ (nodes : List Node) (n : Nat),
      n ≤ nodes.foldl (fun n node => n + node.entries) n := by
    intro nodes
    induction nodes with
    | nil => exact Nat.le_refl
    | cons node nodes ih => exact fun n => Nat.le_trans (Nat.le_add_right _ _) (ih _)
  induction nodes generalizing seen n with
  | nil => exact Nat.le_refl _
  | cons node nodes ih =>
    cases seen with
    | nil => exact hle _ _
    | cons s seen =>
      have hrest := ih seen (n + node.entries)
      rw [List.foldl_cons]
      simp only [unentered]
      split <;> omega

/-- What remains to be done: the nodes to enter, and those that they may lead to. -/
def remaining (nodes : Array Node) (ks : List Nat) (f : Frontier) : Nat :=
  ks.length + unentered nodes.toList f.seen.toList

variable {before after : Option Char}

/-- Entering a node that is not entered yet uses up what it leads to. -/
theorem unentered_setIfInBounds {f : Frontier} {k : Nat} (hsize : f.seen.size = nodes.size)
    (hseen : ¬f.seen[k]?.getD true = true) : ∃ node, nodes[k]? = some node ∧
      unentered nodes.toList (f.seen.setIfInBounds k true).toList + (node.entries - 1) =
        unentered nodes.toList f.seen.toList := by
  cases hk : f.seen[k]? with
  | none => simp [hk] at hseen
  | some s =>
    obtain rfl : s = false := by simpa [hk] using hseen
    have hlt : k < nodes.size := hsize ▸ (Array.getElem?_eq_some_iff.1 hk).1
    refine ⟨nodes[k], Array.getElem?_eq_getElem hlt, ?_⟩
    rw [Array.toList_setIfInBounds]
    refine unentered_set ?_ ?_
    · rw [Array.getElem?_toList, Array.getElem?_eq_getElem hlt]
    · rw [Array.getElem?_toList, hk]

theorem enter_nil (budget : Nat) (f : Frontier) : enter nodes before after budget [] f = f := by
  cases budget <;> rfl

/-- Every budget that covers what remains gives the same. -/
theorem enter_budget {budget budget' : Nat} {ks : List Nat} {f : Frontier}
    (hsize : f.seen.size = nodes.size) (h : remaining nodes ks f ≤ budget)
    (h' : remaining nodes ks f ≤ budget') :
    enter nodes before after budget ks f = enter nodes before after budget' ks f := by
  induction budget generalizing budget' ks f with
  | zero =>
    obtain rfl : ks = [] := List.length_eq_zero_iff.1 (by unfold remaining at h; omega)
    rw [enter_nil, enter_nil]
  | succ budget ih =>
    cases ks with
    | nil => rw [enter_nil, enter_nil]
    | cons k ks =>
      simp only [remaining, List.length_cons] at h h' ih
      obtain ⟨budget', rfl⟩ : ∃ n, budget' = n + 1 := ⟨budget' - 1, by omega⟩
      rw [enter, enter]
      split
      · exact ih hsize (by omega) (by omega)
      · next hseen =>
        -- what the node leads to is paid for by its share
        obtain ⟨node, hnode, hset⟩ := unentered_setIfInBounds hsize hseen
        have hsize' : (f.seen.setIfInBounds k true).size = nodes.size := by
          rw [Array.size_setIfInBounds, hsize]
        dsimp only
        rw [hnode]
        cases node with
        | choice nexts =>
          simp only [Node.entries] at hset
          refine ih hsize' ?_ ?_ <;> dsimp only <;> rw [List.length_append] <;> omega
        | look a next =>
          simp only [Node.entries] at hset
          dsimp only
          split
          · refine ih hsize' ?_ ?_ <;> dsimp only <;> rw [List.length_cons] <;> omega
          · refine ih hsize' ?_ ?_ <;> dsimp only <;> omega
        | accept => exact ih hsize' (by dsimp only; omega) (by dsimp only; omega)
        | char c next => exact ih hsize' (by dsimp only; omega) (by dsimp only; omega)
        | set s next => exact ih hsize' (by dsimp only; omega) (by dsimp only; omega)

/-! ## One more node -/

/-- The same nodes have been entered, of so many, and they gave the same threads. -/
structure Frontier.Same (n : Nat) (f f' : Frontier) : Prop where
  size : f.seen.size = n
  seen : ∀ k < n, f'.seen[k]? = f.seen[k]?
  threads : f'.threads = f.threads
  lt : ∀ k ∈ f.threads, k < n

theorem targets_lt (hclosed : Closed nodes) {k : Nat} {node : Node} (h : nodes[k]? = some node) :
    ∀ next ∈ node.targets, next < nodes.size :=
  hclosed node (Array.mem_of_getElem? h)

theorem Frontier.Same.enter {f f' : Frontier} {k n : Nat} (h : f.Same n f') {threads : List Nat}
    (hlt : ∀ k ∈ threads, k < n) : Frontier.Same n ⟨f.seen.setIfInBounds k true, threads⟩
      ⟨f'.seen.setIfInBounds k true, threads⟩ where
  size := by rw [Array.size_setIfInBounds, h.size]
  seen := by
    intro j hj
    have hseen := h.seen j hj
    have hlt : j < f.seen.size := by rwa [h.size]
    have hlt' : j < f'.seen.size := by
      rw [Array.getElem?_eq_getElem hlt] at hseen
      exact (Array.getElem?_eq_some_iff.1 hseen).1
    rw [Array.getElem?_setIfInBounds, Array.getElem?_setIfInBounds]
    split
    · next hk =>
      subst hk
      rw [if_pos hlt, if_pos hlt']
    · exact hseen
  threads := rfl
  lt := hlt

/-- Where nothing leads to a further node, the others are entered as without it. -/
theorem enter_push (hclosed : Closed nodes) (extra : Node) (budget : Nat) {ks : List Nat}
    {f f' : Frontier} (hks : ∀ k ∈ ks, k < nodes.size) (h : f.Same nodes.size f') :
    (enter nodes before after budget ks f).Same nodes.size
      (enter (nodes.push extra) before after budget ks f') := by
  induction budget generalizing ks f f' with
  | zero => exact h
  | succ budget ih =>
    cases ks with
    | nil => exact h
    | cons k ks =>
      obtain ⟨hk, hks⟩ := List.forall_mem_cons.1 hks
      have hnode : (nodes.push extra)[k]? = nodes[k]? := by
        rw [Array.getElem?_push, if_neg (Nat.ne_of_lt hk)]
      rw [enter, enter, h.seen k hk, hnode]
      split
      · exact ih hks h
      · rw [h.threads]
        dsimp only
        split
        · next nexts hnexts =>
          refine ih ?_ (h.enter h.lt)
          exact List.forall_mem_append.2 ⟨targets_lt hclosed hnexts, hks⟩
        · next a next hlook =>
          refine ih ?_ (h.enter h.lt)
          split
          · have hnext := targets_lt hclosed hlook next (List.mem_singleton.2 rfl)
            exact List.forall_mem_cons.2 ⟨hnext, hks⟩
          · exact hks
        · exact ih hks (h.enter (List.forall_mem_cons.2 ⟨hk, h.lt⟩))

/-- The automaton is closed, and its budget covers what may be entered at one place. -/
structure Sound (a : Automaton) : Prop where
  start : a.start < a.nodes.size
  closed : Closed a.nodes
  entries : ∀ seen, unentered a.nodes.toList seen < a.entries

/-- The automaton with an assertion in front. -/
def behind (a : Automaton) (look : Look) : Automaton where
  nodes := a.nodes.push (.look look a.start)
  start := a.nodes.size
  entries := a.entries + 2

variable {a : Automaton} {look : Look}

theorem Sound.remaining_le (ha : a.Sound) (k : Nat) (f : Frontier) :
    remaining a.nodes [k] f ≤ a.entries := by
  have hlt := ha.entries f.seen.toList
  rw [remaining, List.length_singleton]
  omega

/-- Any budget that is no smaller will do, with or without the assertion. -/
theorem Sound.enter_behind (ha : a.Sound) (look : Look) {budget k : Nat}
    (hbudget : a.entries ≤ budget) (hk : k < a.nodes.size) {f f' : Frontier}
    (h : f.Same a.nodes.size f') :
    (enter a.nodes before after a.entries [k] f).Same a.nodes.size
      (enter (a.behind look).nodes before after budget [k] f') := by
  have hremaining := ha.remaining_le k f
  rw [enter_budget h.size hremaining (Nat.le_trans hremaining hbudget)]
  exact enter_push ha.closed _ _ (List.forall_mem_singleton.2 hk) h

theorem Frontier.same_start (nodes : Array Node) (extra : Node) :
    (Frontier.start nodes).Same nodes.size (.start (nodes.push extra)) where
  size := by simp [Frontier.start]
  seen := by
    intro k hk
    simp [Frontier.start, hk, Nat.lt_succ_of_lt hk]
  threads := rfl
  lt := nofun

/-- Threads that consume a character come to the same nodes with and without the assertion. -/
theorem Sound.advance_behind (ha : a.Sound) (look : Look) (c : Char) (after : Option Char)
    {ks : List Nat} {f f' : Frontier}
    (hks : ∀ k ∈ ks, k < a.nodes.size) (h : f.Same a.nodes.size f') :
    (advance (a.behind look) c after ks f').1 = (advance a c after ks f).1 ∧
      (advance a c after ks f).2.Same a.nodes.size (advance (a.behind look) c after ks f').2 := by
  induction ks generalizing f f' with
  | nil => exact ⟨rfl, h⟩
  | cons k ks ih =>
    obtain ⟨hk, hks⟩ := List.forall_mem_cons.1 hks
    have hnode : (a.behind look).nodes[k]? = a.nodes[k]? := by
      rw [behind, Array.getElem?_push, if_neg (Nat.ne_of_lt hk)]
    have henter : ∀ next < a.nodes.size,
        (enter a.nodes (some c) after a.entries [next] f).Same a.nodes.size
          (enter (a.behind look).nodes (some c) after (a.behind look).entries [next] f') :=
      fun next hnext => ha.enter_behind look (Nat.le_add_right _ _) hnext h
    rw [advance, advance, hnode]
    split
    · exact ⟨rfl, h⟩
    · next x next hchar =>
      refine ih hks ?_
      split
      · exact henter next (targets_lt ha.closed hchar _ (List.mem_singleton.2 rfl))
      · exact h
    · next s next hset =>
      refine ih hks ?_
      split
      · exact henter next (targets_lt ha.closed hset _ (List.mem_singleton.2 rfl))
      · exact h
    · exact ih hks h

theorem Sound.run_behind (ha : a.Sound) (look : Look) (cs : List Char) {threads : List Nat}
    (length : Nat) (best : Option Nat) (hthreads : ∀ k ∈ threads, k < a.nodes.size) :
    run (a.behind look) cs threads length best = run a cs threads length best := by
  induction cs generalizing threads length best with
  | nil =>
    have haccepts : ∀ k ∈ threads, accepts (a.behind look).nodes k = accepts a.nodes k := by
      intro k hk
      rw [accepts, accepts, behind, Array.getElem?_push, if_neg (Nat.ne_of_lt (hthreads k hk))]
    have hany : threads.any (accepts (a.behind look).nodes) = threads.any (accepts a.nodes) := by
      rw [Bool.eq_iff_iff, List.any_eq_true, List.any_eq_true]
      exact exists_congr fun k => and_congr_right fun hk => by rw [haccepts k hk]
    rw [run_nil, run_nil, hany]
  | cons c cs ih =>
    obtain ⟨haccepted, hsame⟩ := ha.advance_behind look c cs.head? hthreads
      (Frontier.same_start a.nodes (.look look a.start))
    rw [run_cons, run_cons]
    have hstart : Frontier.start (a.behind look).nodes =
      Frontier.start (a.nodes.push (.look look a.start)) := rfl
    rw [hstart, haccepted, hsame.threads]
    exact ih _ _ fun k hk => hsame.lt k (List.mem_reverse.1 hk)

/-- An assertion in front is asked first, and then everything is as without it. -/
theorem Sound.matchLength?_behind (ha : a.Sound) (look : Look) (rest : List Char) :
    (a.behind look).matchLength? before rest =
      if look.holds before rest.head? then a.matchLength? before rest else none := by
  have hfirst : enter (a.behind look).nodes before rest.head? (a.behind look).entries
      [(a.behind look).start] (.start (a.behind look).nodes) =
        enter (a.behind look).nodes before rest.head? (a.entries + 1)
          (if look.holds before rest.head? then [a.start] else [])
          ⟨(Frontier.start (a.behind look).nodes).seen.setIfInBounds a.nodes.size true, []⟩ := by
    have hseen : (Frontier.start (a.behind look).nodes).seen[a.nodes.size]? = some false := by
      simp [Frontier.start, behind]
    have hnode : (a.behind look).nodes[a.nodes.size]? = some (.look look a.start) := by
      simp [behind]
    have hstart : (a.behind look).start = a.nodes.size := rfl
    rw [hstart, show (a.behind look).entries = a.entries + 1 + 1 from rfl, enter, hseen, hnode]
    rfl
  rw [matchLength?, hfirst]
  split
  · have hsame : (Frontier.start a.nodes).Same a.nodes.size
        ⟨(Frontier.start (a.behind look).nodes).seen.setIfInBounds a.nodes.size true, []⟩ := by
      have hstart := Frontier.same_start a.nodes (.look look a.start)
      refine ⟨hstart.size, fun k hk => ?_, rfl, hstart.lt⟩
      rw [Array.getElem?_setIfInBounds_ne (Nat.ne_of_gt hk)]
      exact hstart.seen k hk
    have henter : (enter a.nodes before rest.head? a.entries [a.start] (.start a.nodes)).Same
        a.nodes.size (enter (a.behind look).nodes before rest.head? (a.entries + 1) [a.start]
          ⟨(Frontier.start (a.behind look).nodes).seen.setIfInBounds a.nodes.size true, []⟩) :=
      ha.enter_behind look (Nat.le_succ a.entries) ha.start hsame
    rw [henter.threads, ha.run_behind look rest 0 none
      fun k hk => henter.lt k (List.mem_reverse.1 hk)]
    rfl
  · rw [enter_nil, List.reverse_nil, run_nil_threads]

/-! ## The automaton of a term -/

theorem sound_ofTerm (t : Term) : (ofTerm t).Sound := by
  have haccept : Automaton.Closed #[.accept] := by
    intro node hnode k hk
    rw [Array.mem_singleton.1 hnode] at hk
    cases hk
  have hbuilt := closed_build t 0 #[.accept] Nat.one_pos haccept
  refine ⟨hbuilt.lt, hbuilt.closed, fun seen => ?_⟩
  have hle := unentered_le_foldl (ofTerm t).nodes.toList seen 1
  rw [Array.foldl_toList] at hle
  exact Nat.lt_of_lt_of_le (Nat.lt_add_of_pos_left Nat.one_pos) hle

/-! Sequences are built alike before and after their parts are joined. -/

theorem characters_append (cs ds : List Char) (next : Nat) (nodes : Array Node) :
    characters (cs ++ ds) next nodes =
      characters cs (characters ds next nodes).1 (characters ds next nodes).2 := by
  induction cs with
  | nil => rfl
  | cons c cs ih => rw [List.cons_append, characters, characters, ih]

theorem buildSequence_join (t : Term) (ts : List Term) :
    buildSequence (t.join ts) = buildSequence (t :: ts) := by
  funext next nodes
  unfold Term.join
  split
  · simp only [buildSequence, build, characters_append]
  · rfl

theorem buildSequence_foldr_join (ts : List Term) :
    buildSequence (ts.foldr Term.join []) = buildSequence ts := by
  induction ts with
  | nil => rfl
  | cons t ts ih =>
    rw [List.foldr_cons, buildSequence_join]
    funext next nodes
    rw [buildSequence, buildSequence, ih]

theorem buildSequence_append (ts us : List Term) (next : Nat) (nodes : Array Node) :
    buildSequence (ts ++ us) next nodes =
      buildSequence ts (buildSequence us next nodes).1 (buildSequence us next nodes).2 := by
  induction ts with
  | nil => simp only [List.nil_append, buildSequence]
  | cons t ts ih => rw [List.cons_append, buildSequence, buildSequence, ih]

theorem buildSequence_parts (t : Term) : buildSequence t.parts = build t := by
  funext next nodes
  cases t <;> simp only [Term.parts, buildSequence, build]

theorem buildSequence_flatMap_parts (ts : List Term) :
    buildSequence (ts.flatMap Term.parts) = buildSequence ts := by
  induction ts with
  | nil => rfl
  | cons t ts ih =>
    funext next nodes
    rw [List.flatMap_cons, buildSequence_append, buildSequence_parts, ih, buildSequence]

theorem build_ofSequence (ts : List Term) : build (.ofSequence ts) = buildSequence ts := by
  rw [← buildSequence_flatMap_parts, ← buildSequence_foldr_join]
  funext next nodes
  unfold Term.ofSequence
  split
  · next h => rw [h]; simp only [build, buildSequence]
  · next h => rw [h]; simp only [buildSequence]
  · simp only [build]

/-- The automaton of an assertion and a term is that of the term with the assertion in front. -/
theorem ofTerm_look (look : Look) (t : Term) :
    ofTerm (.ofSequence [.look look, t]) = (ofTerm t).behind look := by
  have hbuild : build (.ofSequence [.look look, t]) 0 #[.accept] =
      add (.look look (build t 0 #[.accept]).1) (build t 0 #[.accept]).2 := by
    rw [build_ofSequence]
    simp only [buildSequence, build]
  rw [ofTerm, hbuild, behind, ofTerm]
  simp only [add, Array.foldl_push]
  rfl

end Automaton

end Tint.Regex
