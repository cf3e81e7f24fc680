import Tint.CharSet

/-!
# Recent characters

The classes of patterns are those of version 16 of Unicode. How text is shown and lower-cased, and
what a group may be called, follows version 17. These are the characters that it adds, and those
among them with the properties that matter there.
-/

namespace Tint.Unicode.Recent

/-- The characters that the version adds. -/
def added : CharSet := .ofBounds [
  2191, 2192, 3164, 3165, 3292, 3293, 6863, 6878, 6880, 6892, 8385, 8386, 11158, 11159, 42958,
  42960, 42962, 42963, 42964, 42965, 42993, 42994, 64451, 64467, 64912, 64914, 64968, 64975, 67904,
  67930, 69317, 69320, 69328, 69337, 69370, 69372, 72544, 72552, 73136, 73180, 73184, 73194, 93856,
  93881, 93883, 93908, 94194, 94199, 100344, 100352, 101641, 101663, 101760, 101875, 118010,
  118013, 118458, 118481, 118496, 118513, 124608, 124639, 124640, 124662, 124670, 124672, 128728,
  128729, 128887, 128891, 129232, 129241, 129620, 129624, 129674, 129675, 129678, 129679, 129736,
  129737, 129741, 129742, 129770, 129771, 129775, 129776, 130042, 130043, 177978, 177984, 183970,
  183982, 205744, 210042]

/-- The alphabetic ones. -/
def alphabetic : CharSet := .ofBounds [
  2191, 2192, 3164, 3165, 3292, 3293, 42958, 42960, 42962, 42963, 42964, 42965, 42993, 42994,
  67904, 67930, 69317, 69320, 69370, 69372, 72544, 72552, 73136, 73180, 93856, 93881, 93883, 93908,
  94194, 94199, 100344, 100352, 101641, 101663, 101760, 101875, 124608, 124639, 124640, 124662,
  124670, 124672, 177978, 177984, 183970, 183982, 205744, 210042]

/-- Digits and other numbers. -/
def numeric : CharSet := .ofBounds [
  73184, 73194, 94196, 94199]

/-- Those that only extend the character before them. -/
def graphemeExtend : CharSet := .ofBounds [
  6863, 6878, 6880, 6892, 69370, 69372, 72544, 72545, 72546, 72549, 72550, 72551, 124643, 124644,
  124646, 124647, 124654, 124656, 124661, 124662]

/-- Letters with case. -/
def cased : CharSet := .ofBounds [
  42958, 42960, 42962, 42963, 42964, 42965, 42993, 42994, 93856, 93881, 93883, 93908]

/-- Those that do not separate a letter from the letters of its word. -/
def caseIgnorable : CharSet := .ofBounds [
  6863, 6878, 6880, 6892, 42993, 42994, 69317, 69318, 69370, 69372, 72544, 72545, 72546, 72549,
  72550, 72551, 73177, 73178, 94194, 94196, 124643, 124644, 124646, 124647, 124654, 124656, 124661,
  124662, 124671, 124672]

end Tint.Unicode.Recent
