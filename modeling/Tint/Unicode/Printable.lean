import Tint.Unicode.Property
import Tint.Unicode.Recent

/-!
# Printable characters

A character is printable when it shows as itself: no control or format character, no separator
but the blank, neither private nor unassigned, and none that may be ignored. An extender of the
character before it does not stand alone; modifier letters among the extenders do.
-/

namespace Tint.Unicode

/-- The characters that do not show as themselves. -/
def unprintable : CharSet :=
  let hidden : List Category :=
    [.control, .format, .privateUse, .lineSeparator, .paragraphSeparator, .spaceSeparator]
  (hidden.foldl (fun s g => s.union g.set)
      ((Category.unassigned.set.diff Recent.added).union
        (.ofBounds Property.defaultIgnorableCodePoint))).diff
    (.singleton ' ')

/-- The characters that only extend the character before them. -/
def extenders : CharSet :=
  (Property.beyond Property.graphemeExtend [.modifierLetter]).union Recent.graphemeExtend

/-- Whether a character shows as itself, wherever it stands. -/
def standsAlone (c : Char) : Bool := !extenders.mem c && !unprintable.mem c

end Tint.Unicode
