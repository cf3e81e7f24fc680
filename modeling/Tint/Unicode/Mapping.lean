/-!
# Character mappings

A mapping from code points to code points, kept as runs. A run of stride one maps a block to a
block (the Latin capitals to the small letters); a run of stride two maps every other character
(scripts that alternate capitals and small letters).
-/

namespace Tint.Unicode

/-- The code points `first`, `first + stride`, … (`count` of them) go to `target`,
`target + stride`, …. -/
structure Run where
  first : Nat
  count : Nat
  stride : Nat
  target : Nat
deriving DecidableEq

/-- The pairs of a run. -/
def Run.pairs (r : Run) : List (Nat × Nat) :=
  (List.range r.count).map fun i => (r.first + i * r.stride, r.target + i * r.stride)

/-- The image of a code point that lies in the run. -/
def Run.image? (r : Run) (c : Nat) : Option Nat :=
  if r.first ≤ c && (c - r.first) % r.stride == 0 && (c - r.first) / r.stride < r.count then
    some (c - r.first + r.target)
  else none

/-- A mapping, as runs with disjoint sources. -/
abbrev Mapping := List Run

/-- The image of a code point; a code point in no run is its own image. -/
def Mapping.apply (m : Mapping) (c : Nat) : Nat := (m.findSome? (·.image? c)).getD c

/-- All pairs of a mapping. -/
def Mapping.pairs (m : Mapping) : List (Nat × Nat) := m.flatMap Run.pairs

end Tint.Unicode
