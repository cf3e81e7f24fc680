import Tint.Unicode.Lowercase

/-!
# Changes of case

Whether a character changes when it is written in another case. Those that change in lower case
are the sources of the mapping to lower case. Its images change in upper case, together with the
characters listed here: ligatures, characters with marks that have no capital of their own, and
variants of letters.
-/

namespace Tint.Unicode.CaseChange

/-- The mapping to lower case, without the recent characters. -/
def pairs : List (Nat × Nat) :=
  lowercaseMapping.pairs.filter fun p => !Recent.added.memCode p.1

/-- The characters that lower case changes. -/
def lowercased : CharSet := (CharSet.ofCodes (pairs.map Prod.fst)).union (.codes 0x130 0x130)

/-- The characters that upper case changes. -/
def uppercased : CharSet :=
  (CharSet.ofCodes (pairs.map Prod.snd)).union (.ofBounds [
    181, 182, 305, 306, 329, 330, 383, 384, 453, 454, 456, 457, 459, 460, 496, 497, 498, 499, 837,
    838, 912, 913, 944, 945, 962, 963, 976, 978, 981, 983, 1008, 1010, 1013, 1014, 1415, 1416,
    7296, 7305, 7830, 7836, 8016, 8017, 8018, 8019, 8020, 8021, 8022, 8023, 8072, 8080, 8088, 8096,
    8104, 8112, 8114, 8115, 8116, 8117, 8118, 8120, 8124, 8125, 8126, 8127, 8130, 8131, 8132, 8133,
    8134, 8136, 8140, 8141, 8146, 8148, 8150, 8152, 8162, 8165, 8166, 8168, 8178, 8179, 8180, 8181,
    8182, 8184, 8188, 8189, 64256, 64263, 64275, 64280])

/-- Georgian letters, which have capitals but no title case. -/
def georgian : CharSet where
  bounds := [4304, 4347, 4349, 4352]

/-- The capital digraphs, which have a title case of their own. -/
def digraphs : CharSet := .ofCodes [452, 455, 458, 497]

/-- The characters that title case changes. -/
def titlecased : CharSet :=
  ((uppercased.diff Category.titleLetter.set).diff georgian).union digraphs

/-- The capitals of Cherokee, to which its small letters fold. -/
def cherokee : CharSet where
  bounds := [5024, 5110]

/-- The characters that case folding changes: those that lower case changes, ligatures and variants
of letters. -/
def casefolded : CharSet :=
  (lowercased.diff cherokee).union (.ofBounds [
    181, 182, 223, 224, 329, 330, 383, 384, 837, 838, 962, 963, 976, 978, 981, 983, 1008, 1010,
    1013, 1014, 1415, 1416, 5112, 5118, 7296, 7305, 7834, 7836, 8064, 8072, 8080, 8088, 8096, 8104,
    8114, 8117, 8119, 8120, 8130, 8133, 8135, 8136, 8178, 8181, 8183, 8184, 43888, 43968, 64256,
    64263, 64275, 64280])

/-- The characters that change in some case. -/
def casemapped : CharSet := (lowercased.union uppercased).union titlecased

/-- The characters with the property of this name. -/
def named? (name : String) : Option CharSet :=
  match name with
  | "changeswhenlowercased" | "cwl" => some lowercased
  | "changeswhenuppercased" | "cwu" => some uppercased
  | "changeswhentitlecased" | "cwt" => some titlecased
  | "changeswhencasefolded" | "cwcf" => some casefolded
  | "changeswhencasemapped" | "cwcm" => some casemapped
  | _ => none

end Tint.Unicode.CaseChange
