import Tint.Regex.Match

/-!
# Trails

A search runs threads from one place after the other, and most of these runs come to nothing. The
trail of such a run holds its threads at each place that it passed. A later run that meets the same
threads at the same place comes to nothing either, so it stops there. Where all runs fall in with
the first one, as those of a loop do, the search passes each character a few times only.

`matchBeside_fst` says that a trail never changes what is found, and `idleTrail_matchBeside` that
the threads of a run that finds nothing, or nothing but the empty text, are a trail again.
-/

namespace Tint.Regex

/-- The threads of a run at each place from some place on. -/
abbrev Trail := List (List Nat)

namespace Automaton

/-- Run threads until they come to an end or meet a trail. `trail` starts at the place of the
threads, and `passed` are the threads at the places before it, last first. Gives the length of the
match and the trail from the first of these places on. -/
def runBeside (a : Automaton) : List Char → Trail → (passed : Trail) → (threads : List Nat) →
    (length : Nat) → (best : Option Nat) → Option Nat × Trail
  | [], trail, passed, threads, length, best =>
    if threads.isEmpty || trail.head? == some threads then (best, passed.reverseAux trail)
    else
      (if threads.any (accepts a.nodes) then some length else best, passed.reverseAux [threads])
  | c :: cs, trail, passed, threads, length, best =>
    if threads.isEmpty || trail.head? == some threads then (best, passed.reverseAux trail)
    else
      let (accepted, f) := advance a c cs.head? threads (.start a.nodes)
      runBeside a cs trail.tail (threads :: passed) f.threads.reverse (length + c.utf8Size)
        (if accepted then some length else best)

/-- The length of the match at a place, as `matchLength?` gives it, and the trail from there on. -/
def matchBeside (a : Automaton) (trail : Trail) (before : Option Char) (rest : List Char) :
    Option Nat × Trail :=
  let f := enter a.nodes before rest.head? a.entries [a.start] (.start a.nodes)
  runBeside a rest trail [] f.threads.reverse 0 none

/-! ## Runs -/

theorem run_nil_threads (a : Automaton) (cs : List Char) (length : Nat) (best : Option Nat) :
    run a cs [] length best = best := by
  cases cs <;> rfl

theorem run_cons (a : Automaton) (c : Char) (cs : List Char) (threads : List Nat) (length : Nat)
    (best : Option Nat) :
    run a (c :: cs) threads length best =
      run a cs (advance a c cs.head? threads (.start a.nodes)).2.threads.reverse
        (length + c.utf8Size)
        (if (advance a c cs.head? threads (.start a.nodes)).1 then some length else best) := by
  cases threads with
  | nil => simp [run_nil_threads, advance, Frontier.start]
  | cons k ks => rfl

theorem run_nil (a : Automaton) (threads : List Nat) (length : Nat) (best : Option Nat) :
    run a [] threads length best =
      if threads.any (accepts a.nodes) then some length else best := by
  cases threads <;> rfl

/-- What a run finds does not depend on what was found before it. -/
theorem run_eq (a : Automaton) (cs : List Char) (threads : List Nat) (length : Nat)
    (best : Option Nat) :
    run a cs threads length best = ((run a cs threads 0 none).map (length + ·)).or best := by
  induction cs generalizing threads length best with
  | nil => rw [run_nil, run_nil]; split <;> simp
  | cons c cs ih =>
    rw [run_cons, run_cons, ih, ih _ (0 + _)]
    cases run a cs (advance a c cs.head? threads (.start a.nodes)).2.threads.reverse 0 none <;>
      split <;> simp [Nat.add_assoc]

/-! ## Runs that come to nothing -/

/-- Threads that come to nothing. -/
def Idle (a : Automaton) (cs : List Char) (threads : List Nat) : Prop :=
  run a cs threads 0 none = none

/-- A trail of threads that come to nothing, from the place where `cs` starts. -/
def IdleTrail (a : Automaton) : List Char → Trail → Prop
  | _, [] => True
  | cs, threads :: trail => Idle a cs threads ∧ IdleTrail a cs.tail trail

theorem Idle.run_eq {a : Automaton} {cs : List Char} {threads : List Nat}
    (h : Idle a cs threads) (length : Nat) (best : Option Nat) :
    run a cs threads length best = best := by
  rw [Automaton.run_eq, h]; rfl

theorem idle_nil (a : Automaton) (cs : List Char) : Idle a cs [] := run_nil_threads ..

/-- A run that finds at most the empty text comes to nothing after the first character. -/
theorem idle_advance {a : Automaton} {c : Char} {cs : List Char} {threads : List Nat}
    (h : run a (c :: cs) threads 0 none = none ∨ run a (c :: cs) threads 0 none = some 0) :
    Idle a cs (advance a c cs.head? threads (.start a.nodes)).2.threads.reverse := by
  rw [run_cons, run_eq] at h
  unfold Idle
  cases hr : run a cs (advance a c cs.head? threads (.start a.nodes)).2.threads.reverse 0 none with
  | none => rfl
  | some n =>
    have := c.utf8Size_pos
    simp [hr] at h
    omega

theorem idleTrail_nil (a : Automaton) (cs : List Char) : IdleTrail a cs [] := trivial

theorem IdleTrail.tail {a : Automaton} {cs : List Char} {trail : Trail}
    (h : IdleTrail a cs trail) : IdleTrail a cs.tail trail.tail := by
  cases trail with
  | nil => exact idleTrail_nil ..
  | cons threads trail => exact h.2

/-- Threads that are at an end, or meet a trail, come to nothing. -/
theorem IdleTrail.idle_of_meets {a : Automaton} {cs : List Char} {trail : Trail}
    {threads : List Nat} (h : IdleTrail a cs trail)
    (hm : (threads.isEmpty || trail.head? == some threads) = true) : Idle a cs threads := by
  cases trail with
  | nil => simp_all [idle_nil]
  | cons t trail =>
    simp at hm
    rcases hm with rfl | rfl
    · exact idle_nil a cs
    · exact h.1

theorem runBeside_fst {a : Automaton} {cs : List Char} {trail passed : Trail}
    {threads : List Nat} {length : Nat} {best : Option Nat} (h : IdleTrail a cs trail) :
    (runBeside a cs trail passed threads length best).1 = run a cs threads length best := by
  induction cs generalizing trail passed threads length best with
  | nil =>
    unfold runBeside
    split
    · exact ((h.idle_of_meets ‹_›).run_eq ..).symm
    · exact (run_nil ..).symm
  | cons c cs ih =>
    unfold runBeside
    split
    · exact ((h.idle_of_meets ‹_›).run_eq ..).symm
    · rw [run_cons]; exact ih h.tail

/-- The threads of a run that comes to nothing are a trail. -/
theorem exists_idleTrail_runBeside {a : Automaton} {cs : List Char} {trail : Trail}
    {threads : List Nat} (h : IdleTrail a cs trail) (hi : Idle a cs threads) (passed : Trail)
    (length : Nat) (best : Option Nat) :
    ∃ t, (runBeside a cs trail passed threads length best).2 = passed.reverseAux t ∧
      IdleTrail a cs t := by
  induction cs generalizing trail passed threads length best with
  | nil =>
    unfold runBeside
    split
    · exact ⟨trail, rfl, h⟩
    · exact ⟨[threads], rfl, hi, trivial⟩
  | cons c cs ih =>
    unfold runBeside
    split
    · exact ⟨trail, rfl, h⟩
    · obtain ⟨t, ht, hidle⟩ := ih h.tail (idle_advance (.inl hi)) _ _ _
      exact ⟨threads :: t, ht, hi, hidle⟩

/-- After a run that finds nothing, or nothing but the empty text, there is a trail from the next
place on. -/
theorem idleTrail_tail_runBeside {a : Automaton} {c : Char} {cs : List Char} {trail : Trail}
    {threads : List Nat} (h : IdleTrail a (c :: cs) trail)
    (hn : run a (c :: cs) threads 0 none = none ∨ run a (c :: cs) threads 0 none = some 0) :
    IdleTrail a cs (runBeside a (c :: cs) trail [] threads 0 none).2.tail := by
  unfold runBeside
  split
  · exact h.tail
  · have hi := idle_advance hn
    obtain ⟨t, ht, hidle⟩ := exists_idleTrail_runBeside h.tail hi [threads] (0 + c.utf8Size)
      (if (advance a c cs.head? threads (.start a.nodes)).1 then some 0 else none)
    have : (runBeside a cs trail.tail [threads] _ _ _).2.tail = t := congrArg List.tail ht
    exact this ▸ hidle

/-! ## Matches beside a trail -/

/-- A trail does not change what is found. -/
theorem matchBeside_fst {a : Automaton} {trail : Trail} {rest : List Char}
    (h : IdleTrail a rest trail) (before : Option Char) :
    (a.matchBeside trail before rest).1 = a.matchLength? before rest :=
  runBeside_fst h

/-- After a place where nothing is found, or nothing but the empty text, there is a trail. -/
theorem idleTrail_matchBeside {a : Automaton} {trail : Trail} {before : Option Char} {c : Char}
    {cs : List Char} (h : IdleTrail a (c :: cs) trail)
    (hn : a.matchLength? before (c :: cs) = none ∨ a.matchLength? before (c :: cs) = some 0) :
    IdleTrail a cs (a.matchBeside trail before (c :: cs)).2.tail :=
  idleTrail_tail_runBeside h hn

end Automaton

end Tint.Regex
