import Enrolment.HostName.Composition
import Enrolment.HostName.Direction
/-!
Marks and joiners in a label. No label starts with a mark. A joiner changes how its neighbours are
joined in writing and may stand only where it does so: behind the sign that takes a vowel away, or, the
one that keeps letters apart, between letters that would join.

The runs of the tables may take in characters that no host name has.
-/
namespace Enrolment.HostName

/-! ## Tables -/

/-- Marks that take room (general category Mc). -/
def spacingTable : List String :=
  [ "903 93B 93E-940 949-94C 94E-94F 982-983 9BE-9C0 9C7-9CC 9D7 A03 A3E-A40 A83 ABE-AC0 AC9-ACC B02-B03 B3E",
    "B40 B47-B4C B57 BBE-BBF BC1-BCC BD7 C01-C03 C41-C44 C82-C83 CBE CC0-CC4 CC7-CCB CD5-CD6 CF3 D02-D03",
    "D3E-D40 D46-D4C D57 D82-D83 DCF-DD1 DD8-DDF DF2-DF3 F3E-F3F F7F 102B-102C 1031 1038 103B-103C 1056-1057",
    "1062-1064 1067-106D 1083-1084 1087-108C 108F 109A-109C 1715 1734 17B6 17BE-17C5 17C7-17C8 1923-1926",
    "1929-1931 1933-1938 1A19-1A1A 1A55 1A57 1A61 1A63-1A64 1A6D-1A72 1B04 1B35 1B3B 1B3D-1B41 1B43-1B44 1B82",
    "1BA1 1BA6-1BA7 1BAA 1BE7 1BEA-1BEC 1BEE 1BF2-1BF3 1C24-1C2B 1C34-1C35 1CE1 1CF7 302E-302F A823-A824 A827",
    "A880-A881 A8B4-A8C3 A952-A953 A983 A9B4-A9B5 A9BA-A9BB A9BE-A9C0 AA2F-AA30 AA33-AA34 AA4D AA7B AA7D AAEB",
    "AAEE-AAEF AAF5 ABE3-ABE4 ABE6-ABE7 ABE9-ABEA ABEC 11000 11002 11082 110B0-110B2 110B7-110B8 1112C",
    "11145-11146 11182 111B3-111B5 111BF-111C0 111CE 1122C-1122E 11232-11233 11235 112E0-112E2 11302-11303",
    "1133E-1133F 11341-1134D 11357 11362-11363 113B8-113BA 113C2-113CD 113CF 11435-11437 11440-11441 11445",
    "114B0-114B2 114B9 114BB-114BE 114C1 115AF-115B1 115B8-115BB 115BE 11630-11632 1163B-1163C 1163E 116AC",
    "116AE-116AF 116B6 1171E 11720-11721 11726 1182C-1182E 11838 11930-11938 1193D 11940 11942 119D1-119D3",
    "119DC-119DF 119E4 11A39 11A57-11A58 11A97 11B61 11B65 11B67 11C2F 11C3E 11CA9 11CB1 11CB4 11D8A-11D8E",
    "11D93-11D94 11D96 11EF5-11EF6 11F03 11F34-11F35 11F3E-11F3F 11F41 1612A-1612C 16F51-16F87 16FF0-16FF1",
    "1D165-1D166 1D16D-1D172" ]

def joinsNextTable : List String :=
  [ "620 626 628 62A-62E 633-63F 641-647 649-64A 66E-66F 679-687 69A-6BF 6C1-6C2 6CC 6CE 6D0-6D1 6FA-6FC 6FF",
    "712-714 71A-71D 71F-727 729 72B 72D-72E 74E-758 75C-76A 76D-770 772 775-777 77A-77F 7CA-7EA 841-845 848",
    "84A-853 855 860 862-865 868 886 889-88D 88F 8A0-8A9 8AF-8B0 8B3-8B8 8BA-8C8 1807 1820-1878 1887-18A8",
    "18AA A840-A872 10AC0-10AC4 10ACD 10AD3-10ADC 10ADE-10AE0 10AEB-10AEE 10B80 10B82 10B86-10B88 10B8A-10B8B",
    "10B8D 10B90 10BAD-10BAE 10D00-10D21 10D23 10EC3-10EC4 10EC6-10EC7 10F30-10F32 10F34-10F44 10F51-10F53",
    "10F70-10F73 10F76-10F81 10FB0 10FB2-10FB3 10FB8 10FBB-10FBC 10FBE-10FBF 10FC1 10FC4 10FCA-10FCB",
    "1E922-1E943" ]

def joinsPreviousTable : List String :=
  [ "620 622-63F 641-64A 66E-66F 671-673 679-6D3 6D5 6EE-6EF 6FA-6FC 6FF 710 712-72F 74D-77F 7CA-7EA 840-858",
    "860 862-865 867-882 886 889-88F 8A0-8AC 8AE-8C8 1807 1820-1878 1887-18A8 18AA A840-A871 10AC0-10AC5",
    "10AC7 10AC9-10ACA 10ACE-10AD6 10AD8-10AE1 10AE4 10AEB-10AEF 10B80-10B91 10BA9-10BAE 10D01-10D23",
    "10EC2-10EC4 10EC6-10EC7 10F30-10F44 10F51-10F54 10F70-10F81 10FB0 10FB2-10FB6 10FB8-10FBF 10FC1-10FC4",
    "10FC9-10FCA 1E922-1E943" ]

def spacingRuns : List Text.CodePointRun := Text.codePointRuns spacingTable

def joinsNextRuns : List Text.CodePointRun := Text.codePointRuns joinsNextTable

def joinsPreviousRuns : List Text.CodePointRun := Text.codePointRuns joinsPreviousTable

def isMark (c : Char) : Bool := isNonspacing c || Text.inRuns spacingRuns c

/-- What joining looks through: marks that take no room, and a letter that is used like one. -/
def isTransparent (c : Char) : Bool := isNonspacing c || c.toNat = 0x1E94B

/-- The combining class of the signs that take a vowel away. -/
def viramaClass : Nat := 9

def keepsApart : Char := '\u200c'

def joinsTogether : Char := '\u200d'

def firstJoins (runs : List Text.CodePointRun) (s : List Char) : Bool :=
  match s.dropWhile isTransparent with
  | c :: _ => Text.inRuns runs c
  | [] => false

/-- Whether every joiner in a label stands where it may. What comes before, is given backwards. -/
def joinersFit : List Char → List Char → Bool
  | _, [] => true
  | before, c :: after =>
    let behindVirama : Bool := before.head?.map markClass = some viramaClass
    let fits :=
      if c = keepsApart then
        behindVirama || (firstJoins joinsNextRuns before && firstJoins joinsPreviousRuns after)
      else if c = joinsTogether then behindVirama
      else true
    fits && joinersFit (c :: before) after

end Enrolment.HostName
