import Tint.Unicode.Property
import Tint.Unicode.Script

/-!
# Text boundaries

Three properties say where a text may be divided: into characters as a reader sees them, into words
and into sentences. A value of each is found by its abbreviated or full name, written in lower case
and without blanks, hyphens or underscores. The values are put together from other properties, with
what is listed here added or left out.
-/

namespace Tint.Unicode.Boundary

/-! ## What the three properties share -/

/-- The characters of a binary property. -/
def having (bounds : List Nat) : CharSet := .ofBounds bounds

/-- The characters of some categories. -/
def within (categories : List Category) : CharSet :=
  categories.foldl (fun s g => s.union g.set) .empty

/-- The union of some sets. -/
def unite (sets : List CharSet) : CharSet := sets.foldl .union .empty

/-- A set without the characters of others. -/
def without (s : CharSet) (others : List CharSet) : CharSet := others.foldl .diff s

def carriageReturn : CharSet := .singleton '\r'

def lineFeed : CharSet := .singleton '\n'

def zeroWidthJoiner : CharSet := .codes 0x200D 0x200D

def regionalIndicator : CharSet := having Property.regionalIndicator

/-- Marks and modifiers that continue the character before them. -/
def extension : CharSet :=
  (having Property.graphemeExtend).union (having Property.emojiModifier)

/-- Digits, signs in front of digits, and separators inside numbers. -/
def numeric : CharSet :=
  unite [Category.decimalNumber.set,
    (having Property.prependedConcatenationMark).diff (.codes 0x70F 0x70F),
    .codes 0x66B 0x66C, .codes 0x19DA 0x19DA]

/-- Format characters but the zero width joiner and non-joiner. -/
def format : CharSet := without Category.format.set [.codes 0x200C 0x200D, extension, numeric]

/-! ## Characters as seen -/

namespace Grapheme

def extend : CharSet := extension.diff zeroWidthJoiner

/-- Signs that belong to the character after them. -/
def prepend : CharSet where
  bounds := [
    1536, 1542, 1757, 1758, 1807, 1808, 2192, 2194, 2274, 2275, 3406, 3407, 69821, 69822, 69837,
    69838, 70082, 70084, 70609, 70610, 71999, 72000, 72001, 72002, 72250, 72251, 72324, 72330,
    73030, 73031, 73474, 73475]

/-- Vowels of Hangul, and of scripts that join vowels as Hangul does. -/
def vowel : CharSet where
  bounds := [
    0x1160, 0x11A8, 0xD7B0, 0xD7C7, 0x16D63, 0x16D64, 0x16D67, 0x16D6B]

/-- Spacing marks that do not belong to the character before them. -/
def independentMark : CharSet where
  bounds := [
    4139, 4141, 4152, 4153, 4194, 4197, 4199, 4206, 4227, 4228, 4231, 4237, 4239, 4240, 4250, 4253,
    6753, 6754, 6755, 6757, 43643, 43644, 43645, 43646, 71456, 71458]

def spacingMark : CharSet :=
  without (Category.spacingMark.set.union (.ofCodes [0xE33, 0xEB3]))
    [extend, independentMark, vowel]

def control : CharSet :=
  without
    ((within [.lineSeparator, .paragraphSeparator, .control, .format]).union
      (Category.unassigned.set.inter (having Property.defaultIgnorableCodePoint)))
    [carriageReturn, lineFeed, zeroWidthJoiner, extend, prepend]

/-- The Hangul syllables. -/
def syllables : CharSet := .codes 0xAC00 0xD7A3

/-- The Hangul syllables without a final consonant, one in 28. -/
def openSyllable : CharSet := .ofCodes ((List.range 399).map fun i => 0xAC00 + 28 * i)

/-- The characters with the value of this name. -/
def named? (name : String) : Option CharSet :=
  match name with
  | "control" | "cn" => some control
  | "cr" => some carriageReturn
  | "extend" | "ex" => some extend
  | "l" => some (.ofBounds [0x1100, 0x1160, 0xA960, 0xA97D])
  | "lf" => some lineFeed
  | "lv" => some openSyllable
  | "lvt" => some (syllables.diff openSyllable)
  | "prepend" | "pp" => some prepend
  | "regionalindicator" | "ri" => some regionalIndicator
  | "spacingmark" | "sm" => some spacingMark
  | "t" => some (.ofBounds [0x11A8, 0x1200, 0xD7CB, 0xD7FC])
  | "v" => some vowel
  | "zwj" => some zeroWidthJoiner
  | _ => none

end Grapheme

/-! ## Words -/

namespace Word

def extend : CharSet := (extension.union Category.spacingMark.set).diff zeroWidthJoiner

def katakana : CharSet :=
  (CharSet.ofBounds Script.katakana).union (.ofBounds [
    12337, 12342, 12443, 12445, 12448, 12449, 12540, 12541, 65392, 65393])

def hebrewLetter : CharSet :=
  (CharSet.ofBounds Script.hebrew).inter Category.otherLetter.set

def number : CharSet := (numeric.union (.codes 0xFF10 0xFF19)).diff (.codes 0x66C 0x66C)

/-- Signs that count as letters. -/
def letterLike : CharSet where
  bounds := [
    184, 185, 706, 710, 722, 728, 734, 736, 741, 748, 749, 750, 751, 768, 1370, 1373, 1374, 1375,
    1418, 1419, 1523, 1524, 1807, 1808, 42760, 42775, 42784, 42786, 42889, 42891, 43867, 43868]

/-- The letters of scripts that do not mark the ends of words. -/
def unspaced : CharSet where
  bounds := [
    3585, 3643, 3648, 3663, 3713, 3715, 3716, 3717, 3718, 3723, 3724, 3748, 3749, 3750, 3751, 3774,
    3776, 3781, 3782, 3783, 3784, 3791, 3804, 3808, 4096, 4160, 4176, 4240, 4250, 4256, 6016, 6100,
    6103, 6104, 6108, 6110, 6480, 6510, 6512, 6517, 6528, 6572, 6576, 6602, 6618, 6619, 6622, 6624,
    6688, 6751, 6752, 6781, 6816, 6830, 43488, 43504, 43514, 43519, 43616, 43715, 43739, 43744,
    71424, 71451, 71453, 71468, 71482, 71484, 71487, 71495]

def letter : CharSet :=
  without ((having Property.alphabetic).union letterLike)
    [having Property.ideographic, katakana, unspaced, .ofBounds Script.hiragana, extend,
      hebrewLetter]

/-- The characters with the value of this name. -/
def named? (name : String) : Option CharSet :=
  match name with
  | "aletter" | "le" => some letter
  | "cr" => some carriageReturn
  | "doublequote" | "dq" => some (.singleton '"')
  | "extend" => some extend
  | "extendnumlet" | "ex" =>
    some (Category.connectorPunctuation.set.union (.codes 0x202F 0x202F))
  | "format" | "fo" =>
    some (without Boundary.format [.codes 0x200B 0x200B, extend, number, letter])
  | "hebrewletter" | "hl" => some hebrewLetter
  | "katakana" | "ka" => some katakana
  | "lf" => some lineFeed
  | "midletter" | "ml" =>
    some (.ofCodes [0x3A, 0xB7, 0x387, 0x55F, 0x5F4, 0x2027, 0xFE13, 0xFE55, 0xFF1A])
  | "midnum" | "mn" =>
    some (.ofCodes
      [0x2C, 0x3B, 0x37E, 0x589, 0x60C, 0x60D, 0x66C, 0x7F8, 0x2044, 0xFE10, 0xFE14, 0xFE50,
        0xFE54, 0xFF0C, 0xFF1B])
  | "midnumlet" | "mb" => some (.ofCodes [0x2E, 0x2018, 0x2019, 0x2024, 0xFE52, 0xFF07, 0xFF0E])
  | "newline" | "nl" => some (.ofCodes [0xB, 0xC, 0x85, 0x2028, 0x2029])
  | "numeric" | "nu" => some number
  | "regionalindicator" | "ri" => some regionalIndicator
  | "singlequote" | "sq" => some (.singleton '\'')
  | "wsegspace" =>
    some (without Category.spaceSeparator.set [.ofCodes [0xA0, 0x2007, 0x202F]])
  | "zwj" => some zeroWidthJoiner
  | _ => none

end Word

/-! ## Sentences -/

namespace Sentence

def extend : CharSet :=
  unite [having Property.graphemeExtend, Category.spacingMark.set, zeroWidthJoiner]

def separator : CharSet := .ofCodes [0x85, 0x2028, 0x2029]

/-- Georgian letters, whose capitals do not start a sentence. -/
def georgian : CharSet where
  bounds := [0x10D0, 0x10FB, 0x10FD, 0x1100, 0x1C90, 0x1CBB, 0x1CBD, 0x1CC0]

def lower : CharSet :=
  without (having Property.lowercase) [having Property.graphemeExtend, georgian]

def upper : CharSet :=
  (Category.titleLetter.set.union (having Property.uppercase)).diff georgian

def number : CharSet := numeric.union (.codes 0xFF10 0xFF19)

def otherLetter : CharSet :=
  without ((having Property.alphabetic).union (.codes 0x5F3 0x5F3)) [lower, upper, extend, number]

def pointTerm : CharSet := .ofCodes [0x2E, 0x2024, 0xFE52, 0xFF0E]

def term : CharSet := (having Property.sentenceTerminal).diff pointTerm

def close : CharSet :=
  without
    ((within [.openPunctuation, .closePunctuation, .initialPunctuation, .finalPunctuation]).union
      (.ofBounds [
        34, 35, 39, 40, 10075, 10081, 11776, 11778, 11782, 11785, 11787, 11788, 128630, 128633]))
    [pointTerm, term]

/-- Punctuation after which a sentence goes on. -/
def continuing : CharSet where
  bounds := [
    44, 46, 58, 60, 894, 895, 1373, 1374, 1548, 1550, 2040, 2041, 6146, 6147, 6152, 6153, 8211,
    8213, 12289, 12290, 65040, 65042, 65043, 65045, 65073, 65075, 65104, 65106, 65108, 65110,
    65112, 65113, 65123, 65124, 65292, 65294, 65306, 65308, 65380, 65381]

/-- The characters with the value of this name. -/
def named? (name : String) : Option CharSet :=
  match name with
  | "aterm" | "at" => some pointTerm
  | "close" | "cl" => some close
  | "cr" => some carriageReturn
  | "extend" | "ex" => some extend
  | "format" | "fo" => some (without Boundary.format [extend, number])
  | "lf" => some lineFeed
  | "lower" | "lo" => some lower
  | "numeric" | "nu" => some number
  | "oletter" | "le" => some otherLetter
  | "scontinue" | "sc" => some continuing
  | "sep" | "se" => some separator
  | "sp" => some (without blank [separator, carriageReturn, lineFeed])
  | "sterm" | "st" => some term
  | "upper" | "up" => some upper
  | _ => none

end Sentence

end Tint.Unicode.Boundary
