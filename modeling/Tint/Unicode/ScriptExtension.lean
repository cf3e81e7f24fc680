import Tint.Unicode.Script

/-!
# Script extensions

Some characters are used with several scripts, or with one that is not their own. For these the
scripts are listed one by one, and their own script counts only if it is among them. For all other
characters the extensions of a script are the script itself.
-/

namespace Tint.Unicode.ScriptExtension

/-! ## The listed characters of each script -/

/-- All characters with listed scripts. -/
def shared : CharSet := .ofBounds [
  183, 184, 700, 701, 711, 712, 713, 716, 717, 718, 727, 728, 729, 730, 768, 783, 784, 786, 787,
  788, 803, 806, 813, 815, 816, 818, 834, 835, 837, 838, 856, 857, 862, 863, 867, 880, 884, 886,
  1155, 1160, 1417, 1418, 1548, 1549, 1563, 1565, 1567, 1568, 1600, 1601, 1611, 1622, 1632, 1642,
  1648, 1649, 1748, 1749, 2385, 2387, 2404, 2416, 2534, 2544, 2662, 2672, 2790, 2800, 3046, 3060,
  3302, 3312, 4160, 4170, 4347, 4348, 5867, 5870, 5941, 5943, 6146, 6148, 6149, 6150, 7376, 7419,
  7616, 7618, 7672, 7673, 7674, 7675, 8239, 8240, 8271, 8272, 8282, 8283, 8285, 8286, 8432, 8433,
  11799, 11800, 11824, 11826, 11836, 11837, 11841, 11842, 11843, 11844, 12272, 12288, 12289, 12292,
  12294, 12295, 12296, 12306, 12307, 12320, 12330, 12334, 12336, 12342, 12343, 12344, 12348, 12352,
  12441, 12445, 12448, 12449, 12539, 12541, 12688, 12704, 12736, 12774, 12783, 12784, 12832, 12872,
  12928, 12977, 12992, 13004, 13055, 13056, 13144, 13169, 13179, 13184, 13280, 13311, 42607, 42608,
  42752, 42760, 43056, 43066, 43249, 43250, 43251, 43252, 43310, 43311, 43471, 43472, 64830, 64832,
  65010, 65011, 65021, 65022, 65093, 65095, 65377, 65382, 65392, 65393, 65438, 65440, 65792, 65795,
  65799, 65844, 65847, 65856, 66272, 66300, 68338, 68339, 70401, 70402, 70403, 70404, 70459, 70461,
  73680, 73682, 73683, 73684, 113824, 113828, 119648, 119666, 127568, 127570]

def adlam : List Nat := [
  1567, 1568, 1600, 1601, 8271, 8272, 11841, 11842]

def arabic : List Nat := [
  1548, 1549, 1563, 1565, 1567, 1568, 1600, 1601, 1611, 1622, 1632, 1642, 1648, 1649, 1748, 1749,
  8271, 8272, 11841, 11842, 64830, 64832, 65010, 65011, 65021, 65022, 66272, 66300]

def armenian : List Nat := [
  776, 777, 1417, 1418]

def avestan : List Nat := [
  183, 184, 11824, 11826]

def bengali : List Nat := [
  700, 701, 2385, 2387, 2404, 2406, 2534, 2544, 7376, 7377, 7378, 7379, 7381, 7383, 7384, 7385,
  7393, 7394, 7402, 7403, 7405, 7406, 7410, 7411, 7413, 7416, 43249, 43250]

def bopomofo : List Nat := [
  711, 712, 713, 716, 729, 730, 12289, 12292, 12296, 12306, 12307, 12320, 12330, 12334, 12336,
  12337, 12343, 12344, 12539, 12540, 65093, 65095, 65377, 65382]

def buginese : List Nat := [
  43471, 43472]

def buhid : List Nat := [
  5941, 5943]

def carian : List Nat := [
  183, 184, 8282, 8283, 8285, 8286, 11825, 11826]

def caucasianAlbanian : List Nat := [
  772, 773, 817, 818, 862, 863]

def chakma : List Nat := [
  2534, 2544, 4160, 4170]

def cherokee : List Nat := [
  768, 771, 772, 773, 779, 781, 803, 805, 816, 818]

def cypriot : List Nat := [
  65792, 65795, 65799, 65844, 65847, 65856]

def cyproMinoan : List Nat := [
  65792, 65794]

def cyrillic : List Nat := [
  700, 701, 768, 771, 772, 773, 774, 775, 776, 777, 779, 780, 785, 786, 1155, 1160, 7672, 7673,
  11843, 11844, 42607, 42608]

def devanagari : List Nat := [
  700, 701, 2385, 2387, 2404, 2416, 7376, 7415, 7416, 7418, 8432, 8433, 43056, 43066, 43249, 43250,
  43251, 43252]

def dogra : List Nat := [
  2404, 2416, 43056, 43066]

def duployan : List Nat := [
  183, 184, 775, 777, 778, 779, 803, 805, 11836, 11837, 113824, 113828]

def elbasan : List Nat := [
  183, 184, 773, 774]

def ethiopic : List Nat := [
  782, 783]

def garay : List Nat := [
  1548, 1549, 1563, 1564, 1567, 1568]

def georgian : List Nat := [
  183, 184, 1417, 1418, 4347, 4348, 8282, 8283, 11825, 11826]

def glagolitic : List Nat := [
  183, 184, 771, 772, 773, 774, 1156, 1157, 1159, 1160, 1417, 1418, 4347, 4348, 8282, 8283, 11843,
  11844, 42607, 42608]

def gothic : List Nat := [
  183, 184, 772, 774, 776, 777, 817, 818]

def grantha : List Nat := [
  2385, 2387, 2404, 2406, 3046, 3060, 7376, 7377, 7378, 7380, 7410, 7413, 7416, 7418, 8432, 8433,
  70401, 70402, 70403, 70404, 70459, 70461, 73680, 73682, 73683, 73684]

def greek : List Nat := [
  183, 184, 768, 770, 772, 773, 774, 775, 776, 777, 787, 788, 834, 835, 837, 838, 884, 886, 7616,
  7618, 8285, 8286]

def gujarati : List Nat := [
  2385, 2387, 2404, 2406, 2790, 2800, 43056, 43066]

def gunjalaGondi : List Nat := [
  183, 184, 2404, 2406]

def gurmukhi : List Nat := [
  2385, 2387, 2404, 2406, 2662, 2672, 43056, 43066]

def gurungKhema : List Nat := [
  2405, 2406]

def han : List Nat := [
  183, 184, 12272, 12288, 12289, 12292, 12294, 12295, 12296, 12306, 12307, 12320, 12330, 12334,
  12336, 12337, 12343, 12344, 12348, 12352, 12539, 12540, 12688, 12704, 12736, 12774, 12783, 12784,
  12832, 12872, 12928, 12977, 12992, 13004, 13055, 13056, 13144, 13169, 13179, 13184, 13280, 13311,
  42752, 42760, 65093, 65095, 65377, 65382, 119648, 119666, 127568, 127570]

def hangul : List Nat := [
  12289, 12292, 12296, 12306, 12307, 12320, 12336, 12337, 12343, 12344, 12539, 12540, 65093, 65095,
  65377, 65382]

def hanifiRohingya : List Nat := [
  1548, 1549, 1563, 1564, 1567, 1568, 1600, 1601, 1748, 1749]

def hanunoo : List Nat := [
  5941, 5943]

def hebrew : List Nat := [
  775, 777]

def hiragana : List Nat := [
  12289, 12292, 12296, 12306, 12307, 12320, 12336, 12342, 12343, 12344, 12348, 12350, 12441, 12445,
  12448, 12449, 12539, 12541, 65093, 65095, 65377, 65382, 65392, 65393, 65438, 65440]

def javanese : List Nat := [
  43471, 43472]

def kaithi : List Nat := [
  2406, 2416, 11825, 11826, 43056, 43066]

def kannada : List Nat := [
  2385, 2387, 2404, 2406, 3302, 3312, 7376, 7377, 7378, 7380, 7386, 7387, 7410, 7411, 7412, 7413,
  43056, 43062]

def katakana : List Nat := [
  773, 774, 803, 804, 12289, 12292, 12296, 12306, 12307, 12320, 12336, 12342, 12343, 12344, 12348,
  12350, 12441, 12445, 12448, 12449, 12539, 12541, 65093, 65095, 65377, 65382, 65392, 65393, 65438,
  65440]

def kayahLi : List Nat := [
  43310, 43311]

def khojki : List Nat := [
  2790, 2800, 43056, 43066]

def khudawadi : List Nat := [
  2404, 2406, 43056, 43066]

def latin : List Nat := [
  183, 184, 700, 701, 711, 712, 713, 716, 717, 718, 727, 728, 729, 730, 768, 783, 784, 786, 787,
  788, 803, 806, 813, 815, 816, 818, 856, 857, 862, 863, 867, 880, 1157, 1159, 2385, 2387, 4347,
  4348, 7672, 7673, 8239, 8240, 8432, 8433, 11799, 11800, 42752, 42760, 43310, 43311]

def limbu : List Nat := [
  2405, 2406]

def linearA : List Nat := [
  65799, 65844]

def linearB : List Nat := [
  65792, 65795, 65799, 65844, 65847, 65856]

def lisu : List Nat := [
  700, 701, 717, 718, 12298, 12300]

def lycian : List Nat := [
  8282, 8283]

def lydian : List Nat := [
  183, 184, 11825, 11826]

def mahajani : List Nat := [
  183, 184, 2404, 2416, 43056, 43066]

def malayalam : List Nat := [
  2385, 2387, 2404, 2406, 7386, 7387, 7410, 7411, 43056, 43059]

def mandaic : List Nat := [
  1600, 1601]

def manichaean : List Nat := [
  1600, 1601, 68338, 68339]

def masaramGondi : List Nat := [
  2404, 2406]

def meroiticHieroglyphs : List Nat := [
  8285, 8286]

def modi : List Nat := [
  43056, 43066]

def mongolian : List Nat := [
  6146, 6148, 6149, 6150, 8239, 8240, 12289, 12291, 12296, 12300]

def multani : List Nat := [
  2662, 2672]

def myanmar : List Nat := [
  4160, 4170, 43310, 43311]

def nandinagari : List Nat := [
  2385, 2386, 2404, 2406, 3302, 3312, 7401, 7402, 7410, 7411, 7418, 7419, 43056, 43062]

def newa : List Nat := [
  2385, 2387, 7381, 7382, 7383, 7385, 7394, 7395, 7401, 7402, 7403, 7404, 7405, 7406]

def nko : List Nat := [
  1548, 1549, 1563, 1564, 1567, 1568, 64830, 64832]

def oldHungarian : List Nat := [
  8282, 8283, 8285, 8286, 11825, 11826, 11841, 11842]

def oldPermic : List Nat := [
  183, 184, 768, 769, 774, 777, 787, 788, 1155, 1156]

def oldTurkic : List Nat := [
  8282, 8283, 11824, 11825]

def oldUyghur : List Nat := [
  1600, 1601, 68338, 68339]

def olOnal : List Nat := [
  2404, 2406]

def oriya : List Nat := [
  2385, 2387, 2404, 2406, 7386, 7387, 7410, 7411]

def osage : List Nat := [
  769, 770, 772, 773, 779, 780, 856, 857]

def phagsPa : List Nat := [
  6146, 6148, 6149, 6150, 8239, 8240, 12290, 12291]

def psalterPahlavi : List Nat := [
  1600, 1601]

def coptic : List Nat := [
  183, 184, 768, 769, 772, 774, 775, 776, 884, 886, 11799, 11800, 66272, 66300]

def runic : List Nat := [
  5867, 5870]

def samaritan : List Nat := [
  11825, 11826]

def sharada : List Nat := [
  2385, 2386, 7383, 7384, 7385, 7386, 7388, 7390, 7392, 7393, 7402, 7403, 7405, 7406, 43056, 43062,
  43064, 43065]

def shavian : List Nat := [
  183, 184]

def sinhala : List Nat := [
  2404, 2406, 7410, 7411]

def sogdian : List Nat := [
  1600, 1601]

def sunuwar : List Nat := [
  768, 770, 771, 772, 781, 782, 784, 785, 813, 814, 817, 818]

def sylotiNagri : List Nat := [
  2404, 2406, 2534, 2544]

def syriac : List Nat := [
  771, 773, 775, 777, 778, 779, 803, 806, 813, 815, 816, 818, 1548, 1549, 1563, 1565, 1567, 1568,
  1600, 1601, 1611, 1622, 1648, 1649, 7672, 7673, 7674, 7675]

def tagalog : List Nat := [
  5941, 5943]

def tagbanwa : List Nat := [
  5941, 5943]

def taiLe : List Nat := [
  768, 770, 775, 777, 780, 781, 4160, 4170]

def takri : List Nat := [
  2404, 2406, 43056, 43066]

def tamil : List Nat := [
  2385, 2387, 2404, 2406, 3046, 3060, 7386, 7387, 43251, 43252, 70401, 70402, 70403, 70404, 70459,
  70461, 73680, 73682, 73683, 73684]

def tangut : List Nat := [
  12272, 12288, 12783, 12784]

def telugu : List Nat := [
  2385, 2387, 2404, 2406, 7381, 7383, 7384, 7385, 7386, 7387, 7410, 7411]

def thaana : List Nat := [
  1548, 1549, 1563, 1565, 1567, 1568, 1632, 1642, 65010, 65011, 65021, 65022]

def thai : List Nat := [
  700, 701, 727, 728, 771, 772, 817, 818]

def tibetan : List Nat := [
  12296, 12300]

def tifinagh : List Nat := [
  770, 771, 772, 773, 774, 778, 803, 804]

def tirhuta : List Nat := [
  2385, 2387, 2404, 2406, 7381, 7382, 7394, 7395, 7410, 7411, 43056, 43066]

def todhri : List Nat := [
  769, 770, 772, 773, 775, 776, 785, 786, 787, 788, 862, 863]

def toto : List Nat := [
  700, 701]

def tuluTigalari : List Nat := [
  3302, 3312, 7410, 7411, 7412, 7413, 43056, 43062, 43249, 43250]

def yezidi : List Nat := [
  1548, 1549, 1563, 1564, 1567, 1568, 1632, 1642]

def yi : List Nat := [
  12289, 12291, 12296, 12306, 12308, 12316, 12539, 12540, 65377, 65382]

/-! ## Names -/

/-- The names of each script with the bounds of the characters that are listed for it. -/
def table : List (List String × List Nat) := [
  (["adlm", "adlam"], adlam),
  (["arab", "arabic"], arabic),
  (["armn", "armenian"], armenian),
  (["avst", "avestan"], avestan),
  (["beng", "bengali"], bengali),
  (["bopo", "bopomofo"], bopomofo),
  (["bugi", "buginese"], buginese),
  (["buhd", "buhid"], buhid),
  (["cari", "carian"], carian),
  (["aghb", "caucasianalbanian"], caucasianAlbanian),
  (["cakm", "chakma"], chakma),
  (["cher", "cherokee"], cherokee),
  (["cprt", "cypriot"], cypriot),
  (["cpmn", "cyprominoan"], cyproMinoan),
  (["cyrl", "cyrillic"], cyrillic),
  (["deva", "devanagari"], devanagari),
  (["dogr", "dogra"], dogra),
  (["dupl", "duployan"], duployan),
  (["elba", "elbasan"], elbasan),
  (["ethi", "ethiopic"], ethiopic),
  (["gara", "garay"], garay),
  (["geor", "georgian"], georgian),
  (["glag", "glagolitic"], glagolitic),
  (["goth", "gothic"], gothic),
  (["gran", "grantha"], grantha),
  (["grek", "greek"], greek),
  (["gujr", "gujarati"], gujarati),
  (["gong", "gunjalagondi"], gunjalaGondi),
  (["guru", "gurmukhi"], gurmukhi),
  (["gukh", "gurungkhema"], gurungKhema),
  (["hani", "han"], han),
  (["hang", "hangul"], hangul),
  (["rohg", "hanifirohingya"], hanifiRohingya),
  (["hano", "hanunoo"], hanunoo),
  (["hebr", "hebrew"], hebrew),
  (["hira", "hiragana"], hiragana),
  (["java", "javanese"], javanese),
  (["kthi", "kaithi"], kaithi),
  (["knda", "kannada"], kannada),
  (["kana", "katakana"], katakana),
  (["kali", "kayahli"], kayahLi),
  (["khoj", "khojki"], khojki),
  (["sind", "khudawadi"], khudawadi),
  (["latn", "latin"], latin),
  (["limb", "limbu"], limbu),
  (["lina", "lineara"], linearA),
  (["linb", "linearb"], linearB),
  (["lisu"], lisu),
  (["lyci", "lycian"], lycian),
  (["lydi", "lydian"], lydian),
  (["mahj", "mahajani"], mahajani),
  (["mlym", "malayalam"], malayalam),
  (["mand", "mandaic"], mandaic),
  (["mani", "manichaean"], manichaean),
  (["gonm", "masaramgondi"], masaramGondi),
  (["mero", "meroitichieroglyphs"], meroiticHieroglyphs),
  (["modi"], modi),
  (["mong", "mongolian"], mongolian),
  (["mult", "multani"], multani),
  (["mymr", "myanmar"], myanmar),
  (["nand", "nandinagari"], nandinagari),
  (["newa"], newa),
  (["nkoo", "nko"], nko),
  (["hung", "oldhungarian"], oldHungarian),
  (["perm", "oldpermic"], oldPermic),
  (["orkh", "oldturkic"], oldTurkic),
  (["ougr", "olduyghur"], oldUyghur),
  (["onao", "olonal"], olOnal),
  (["orya", "oriya"], oriya),
  (["osge", "osage"], osage),
  (["phag", "phagspa"], phagsPa),
  (["phlp", "psalterpahlavi"], psalterPahlavi),
  (["copt", "coptic", "qaac"], coptic),
  (["runr", "runic"], runic),
  (["samr", "samaritan"], samaritan),
  (["shrd", "sharada"], sharada),
  (["shaw", "shavian"], shavian),
  (["sinh", "sinhala"], sinhala),
  (["sogd", "sogdian"], sogdian),
  (["sunu", "sunuwar"], sunuwar),
  (["sylo", "sylotinagri"], sylotiNagri),
  (["syrc", "syriac"], syriac),
  (["tglg", "tagalog"], tagalog),
  (["tagb", "tagbanwa"], tagbanwa),
  (["tale", "taile"], taiLe),
  (["takr", "takri"], takri),
  (["taml", "tamil"], tamil),
  (["tang", "tangut"], tangut),
  (["telu", "telugu"], telugu),
  (["thaa", "thaana"], thaana),
  (["thai"], thai),
  (["tibt", "tibetan"], tibetan),
  (["tfng", "tifinagh"], tifinagh),
  (["tirh", "tirhuta"], tirhuta),
  (["todr", "todhri"], todhri),
  (["toto"], toto),
  (["tutg", "tulutigalari"], tuluTigalari),
  (["yezi", "yezidi"], yezidi),
  (["yiii", "yi"], yi)]

/-- The characters that are listed for the script with this name. -/
def listed (name : String) : CharSet :=
  match table.find? fun row => row.1.contains name with
  | some row => .ofBounds row.2
  | none => .empty

/-- The characters that are used with the script with this name. -/
def named? (name : String) : Option CharSet :=
  (Script.named? name).map fun own => (own.diff shared).union (listed name)

end Tint.Unicode.ScriptExtension
