/-!
# Stacks of open modes

Modes are nested as the text demands, so the open ones are kept on a stack. At its bottom is the
default mode, which is never taken off.
-/

namespace Tint

/-- An open mode, by its index. -/
structure Frame where
  mode : Nat
  /-- Where the mode was opened. -/
  entry : Nat
  /-- Where the own text of the mode starts that has not become spans yet. -/
  textStart : Nat
deriving DecidableEq, Repr

/-- The open modes: the one at the bottom, and those above it, the last one first. -/
structure ModeStack where
  bottom : Frame := ⟨0, 0, 0⟩
  above : List Frame := []
deriving DecidableEq, Repr

namespace ModeStack

/-- Only the default mode. -/
def start : ModeStack := {}

/-- The mode opened last. -/
def top (s : ModeStack) : Frame := s.above.headD s.bottom

/-- Open a mode at a place. -/
def push (s : ModeStack) (mode entry : Nat) : ModeStack :=
  { s with above := ⟨mode, entry, entry⟩ :: s.above }

/-- Close the mode opened last; the default mode stays. -/
def pop (s : ModeStack) : Option Frame × ModeStack :=
  match s.above with
  | [] => (none, s)
  | f :: rest => (some f, { s with above := rest })

/-- Set where the own text of the last mode starts. -/
def setTextStart (s : ModeStack) (place : Nat) : ModeStack :=
  match s.above with
  | [] => { s with bottom := { s.bottom with textStart := place } }
  | f :: rest => { s with above := { f with textStart := place } :: rest }

/-- The number of open modes, with the default mode. -/
def depth (s : ModeStack) : Nat := s.above.length + 1

def isAtBottom (s : ModeStack) : Bool := s.above.isEmpty

/-- The open modes above the default mode, outermost first. -/
def openFrames (s : ModeStack) : List Frame := s.above.reverse

/-- All open modes, outermost first. -/
def frames (s : ModeStack) : List Frame := s.bottom :: s.openFrames

@[simp] theorem depth_push (s : ModeStack) (m e : Nat) : (s.push m e).depth = s.depth + 1 := rfl

@[simp] theorem top_push (s : ModeStack) (m e : Nat) : (s.push m e).top = ⟨m, e, e⟩ := rfl

@[simp] theorem pop_push (s : ModeStack) (m e : Nat) : (s.push m e).pop = (some ⟨m, e, e⟩, s) := rfl

@[simp] theorem frames_push (s : ModeStack) (m e : Nat) :
    (s.push m e).frames = s.frames ++ [⟨m, e, e⟩] := by
  simp [frames, openFrames, push]

@[simp] theorem textStart_top_setTextStart (s : ModeStack) (n : Nat) :
    (s.setTextStart n).top.textStart = n := by
  cases h : s.above <;> simp [setTextStart, top, h]

@[simp] theorem mode_bottom_setTextStart (s : ModeStack) (n : Nat) :
    (s.setTextStart n).bottom.mode = s.bottom.mode := by
  cases h : s.above <;> simp [setTextStart, h]

@[simp] theorem length_above_setTextStart (s : ModeStack) (n : Nat) :
    (s.setTextStart n).above.length = s.above.length := by
  cases h : s.above <;> simp [setTextStart, h]

theorem getLast?_frames (s : ModeStack) : s.frames.getLast? = some s.top := by
  simp [frames, openFrames, top, List.getLast?_cons]

theorem length_frames (s : ModeStack) : s.frames.length = s.depth := by
  simp [frames, openFrames, depth]

end ModeStack

end Tint
