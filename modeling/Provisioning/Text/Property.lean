import Provisioning.Text.Category

/-!
Properties of characters that patterns can name.

A property is a general category, a group of categories, or one of a few others; `Property.members`
are the characters that had it in Unicode 16. Names of properties are read without regard to case,
blanks, hyphens and underscores. Names of scripts, ages and further properties are not known here: a
pattern that uses one is refused.
-/

namespace Provisioning.Text

inductive Property where
  | category (c : Category)
  | letter
  | casedLetter
  | mark
  | number
  | punctuation
  | symbol
  | separator
  | other
  | alphabetic
  | uppercase
  | lowercase
  | blank
  /-- The characters of words: letters, marks, digits, connectors and joiners. -/
  | word
  | assigned
  | ascii
  | any
  deriving DecidableEq, Repr

/-- Alphabetic characters that are no letters, and numbers made of letters. -/
def otherAlphabeticRuns : List Run := runs [
  "345 363..36F 5B0..5BD 5BF 5C1..5C2 5C4..5C5 5C7 610..61A 64B..657 659..65F 670 6D6..6DC",
  "6E1..6E4 6E7..6E8 6ED 711 730..73F 7A6..7B0 816..817 81B..823 825..827 829..82C 897",
  "8D4..8DF 8E3..8E9 8F0..903 93A..93B 93E..94C 94E..94F 955..957 962..963 981..983",
  "9BE..9C4 9C7..9C8 9CB..9CC 9D7 9E2..9E3 A01..A03 A3E..A42 A47..A48 A4B..A4C A51 A70..A71",
  "A75 A81..A83 ABE..AC5 AC7..AC9 ACB..ACC AE2..AE3 AFA..AFC B01..B03 B3E..B44 B47..B48",
  "B4B..B4C B56..B57 B62..B63 B82 BBE..BC2 BC6..BC8 BCA..BCC BD7 C00..C04 C3E..C44 C46..C48",
  "C4A..C4C C55..C56 C62..C63 C81..C83 CBE..CC4 CC6..CC8 CCA..CCC CD5..CD6 CE2..CE3 CF3",
  "D00..D03 D3E..D44 D46..D48 D4A..D4C D57 D62..D63 D81..D83 DCF..DD4 DD6 DD8..DDF DF2..DF3",
  "E31 E34..E3A E4D EB1 EB4..EB9 EBB..EBC ECD F71..F83 F8D..F97 F99..FBC 102B..1036 1038",
  "103B..103E 1056..1059 105E..1060 1062..1064 1067..106D 1071..1074 1082..108D 108F",
  "109A..109D 1712..1713 1732..1733 1752..1753 1772..1773 17B6..17C8 1885..1886 18A9",
  "1920..192B 1930..1938 1A17..1A1B 1A55..1A5E 1A61..1A74 1ABF..1AC0 1ACC..1ACE 1B00..1B04",
  "1B35..1B43 1B80..1B82 1BA1..1BA9 1BAC..1BAD 1BE7..1BF1 1C24..1C36 1DD3..1DF4 24B6..24E9",
  "2DE0..2DFF A674..A67B A69E..A69F A802 A80B A823..A827 A880..A881 A8B4..A8C3 A8C5 A8FF",
  "A926..A92A A947..A952 A980..A983 A9B4..A9BF A9E5 AA29..AA36 AA43 AA4C..AA4D AA7B..AA7D",
  "AAB0 AAB2..AAB4 AAB7..AAB8 AABE AAEB..AAEF AAF5 ABE3..ABEA FB1E 10376..1037A",
  "10A01..10A03 10A05..10A06 10A0C..10A0F 10D24..10D27 10D69 10EAB..10EAC 10EFA..10EFC",
  "11000..11002 11038..11045 11073..11074 11080..11082 110B0..110B8 110C2 11100..11102",
  "11127..11132 11145..11146 11180..11182 111B3..111BF 111CE..111CF 1122C..11234 11237",
  "1123E 11241 112DF..112E8 11300..11303 1133E..11344 11347..11348 1134B..1134C 11357",
  "11362..11363 113B8..113C0 113C2 113C5 113C7..113CA 113CC..113CD 11435..11441",
  "11443..11445 114B0..114C1 115AF..115B5 115B8..115BE 115DC..115DD 11630..1163E 11640",
  "116AB..116B5 1171D..1172A 1182C..11838 11930..11935 11937..11938 1193B..1193C 11940",
  "11942 119D1..119D7 119DA..119DF 119E4 11A01..11A0A 11A35..11A39 11A3B..11A3E",
  "11A51..11A5B 11A8A..11A97 11B60..11B67 11C2F..11C36 11C38..11C3E 11C92..11CA7",
  "11CA9..11CB6 11D31..11D36 11D3A 11D3C..11D3D 11D3F..11D41 11D43 11D47 11D8A..11D8E",
  "11D90..11D91 11D93..11D96 11EF3..11EF6 11F00..11F01 11F03 11F34..11F3A 11F3E..11F40",
  "1611E..1612E 16F4F 16F51..16F87 16F8F..16F92 16FF0..16FF1 1BC9E 1E000..1E006",
  "1E008..1E018 1E01B..1E021 1E023..1E024 1E026..1E02A 1E08F 1E6E3 1E6E6 1E6EE..1E6EF 1E6F5",
  "1E947 1F130..1F149 1F150..1F169 1F170..1F189"]

/-- Joiners, and symbols that are alphabetic. -/
def otherWordRuns : List Run := runs [
  "200C..200D 24B6..24E9 1F130..1F149 1F150..1F169 1F170..1F189"]

/-- Symbols and numbers that have an upper case. -/
def otherUppercaseRuns : List Run := runs [
  "2160..216F 24B6..24CF 1F130..1F149 1F150..1F169 1F170..1F189"]

/-- Modifier letters and symbols that have a lower case. -/
def otherLowercaseRuns : List Run := runs [
  "AA BA 2B0..2B8 2C0..2C1 2E0..2E4 345 37A 10FC 1D2C..1D6A 1D78 1D9B..1DBF 2071 207F",
  "2090..209C 2170..217F 24D0..24E9 2C7C..2C7D A69C..A69D A770 A7F1..A7F4 A7F8..A7F9",
  "AB5C..AB5F AB69 10780 10783..10785 10787..107B0 107B2..107BA 1E030..1E06D"]

def isAlphabetic (c : Char) : Bool :=
  let category := Category.ofChar c
  category.isLetter || category == .letterNumber || inRuns otherAlphabeticRuns c.toNat

def isNumeric (c : Char) : Bool :=
  match Category.ofChar c with
  | .decimalNumber | .letterNumber | .otherNumber => true
  | _ => false

/-- The code points of the characters of words: letters, numbers made of letters, marks, digits,
connectors, joiners and symbols that are alphabetic. -/
def wordSet : CharSet :=
  let categories : List Category := [.uppercaseLetter, .lowercaseLetter, .titlecaseLetter,
    .modifierLetter, .otherLetter, .nonspacingMark, .spacingMark, .enclosingMark, .letterNumber,
    .decimalNumber, .connectorPunctuation]
  (CharSet.unions (categories.map Category.members)).union (.ofRuns otherWordRuns)

def blankSet : CharSet := .ofRuns <| runs [
  "9..D 20 85 A0 1680 2000..200A 2028..2029 202F 205F 3000"]

namespace Property

def ofCategories (cs : List Category) : CharSet := .unions (cs.map Category.members)

/-- The members of a property as listed for Unicode 17 which Unicode 16 had already. -/
def known (rs : List Run) : CharSet := (CharSet.ofRuns rs).diff (.ofRuns Category.newestRuns)

/-- The members of a property in Unicode 16. -/
def members (p : Property) : CharSet :=
  let letters : List Category :=
    [.uppercaseLetter, .lowercaseLetter, .titlecaseLetter, .modifierLetter, .otherLetter]
  match p with
  | .category k => k.members
  | letter => ofCategories letters
  | casedLetter => ofCategories [.uppercaseLetter, .lowercaseLetter, .titlecaseLetter]
  | mark => ofCategories [.nonspacingMark, .spacingMark, .enclosingMark]
  | number => ofCategories [.decimalNumber, .letterNumber, .otherNumber]
  | punctuation =>
    ofCategories [.connectorPunctuation, .dashPunctuation, .openPunctuation, .closePunctuation,
      .initialPunctuation, .finalPunctuation, .otherPunctuation]
  | symbol => ofCategories [.mathSymbol, .currencySymbol, .modifierSymbol, .otherSymbol]
  | separator => ofCategories [.spaceSeparator, .lineSeparator, .paragraphSeparator]
  | other => ofCategories [.control, .format, .surrogate, .privateUse, .unassigned]
  | alphabetic => (ofCategories (.letterNumber :: letters)).union (known otherAlphabeticRuns)
  | uppercase => Category.uppercaseLetter.members.union (known otherUppercaseRuns)
  | lowercase => Category.lowercaseLetter.members.union (known otherLowercaseRuns)
  | blank => blankSet
  | word => wordSet
  | assigned => Category.unassigned.members.complement 0x10FFFF
  | ascii => .range 0 127
  | any => .all

/-- The names of the properties, in the form in which they are compared. -/
def names : List (List String × Property) := [
  (["lu", "uppercaseletter"], .category .uppercaseLetter),
  (["ll", "lowercaseletter"], .category .lowercaseLetter),
  (["lt", "titlecaseletter"], .category .titlecaseLetter),
  (["lm", "modifierletter"], .category .modifierLetter),
  (["lo", "otherletter"], .category .otherLetter),
  (["mn", "nonspacingmark"], .category .nonspacingMark),
  (["mc", "spacingmark"], .category .spacingMark),
  (["me", "enclosingmark"], .category .enclosingMark),
  (["nd", "decimalnumber", "digit"], .category .decimalNumber),
  (["nl", "letternumber"], .category .letterNumber),
  (["no", "othernumber"], .category .otherNumber),
  (["pc", "connectorpunctuation"], .category .connectorPunctuation),
  (["pd", "dashpunctuation"], .category .dashPunctuation),
  (["ps", "openpunctuation"], .category .openPunctuation),
  (["pe", "closepunctuation"], .category .closePunctuation),
  (["pi", "initialpunctuation"], .category .initialPunctuation),
  (["pf", "finalpunctuation"], .category .finalPunctuation),
  (["po", "otherpunctuation"], .category .otherPunctuation),
  (["sm", "mathsymbol"], .category .mathSymbol),
  (["sc", "currencysymbol"], .category .currencySymbol),
  (["sk", "modifiersymbol"], .category .modifierSymbol),
  (["so", "othersymbol"], .category .otherSymbol),
  (["zs", "spaceseparator"], .category .spaceSeparator),
  (["zl", "lineseparator"], .category .lineSeparator),
  (["zp", "paragraphseparator"], .category .paragraphSeparator),
  (["cc", "control", "cntrl"], .category .control),
  (["cf", "format"], .category .format),
  (["co", "privateuse"], .category .privateUse),
  (["cn", "unassigned"], .category .unassigned),
  (["l", "letter"], .letter),
  (["lc", "casedletter"], .casedLetter),
  (["m", "mark", "combiningmark"], .mark),
  (["n", "number"], .number),
  (["p", "punctuation", "punct"], .punctuation),
  (["s", "symbol"], .symbol),
  (["z", "separator"], .separator),
  (["c", "other"], .other),
  (["alphabetic", "alpha"], .alphabetic),
  (["uppercase", "upper"], .uppercase),
  (["lowercase", "lower"], .lowercase),
  (["whitespace", "wspace", "space"], .blank),
  (["assigned"], .assigned),
  (["ascii"], .ascii),
  (["any"], .any)]

/-- The characters of a name that count when names are compared: those of ASCII that are no blank,
no hyphen and no underscore, in lower case. -/
def significant (cs : List Char) : List Char :=
  (cs.filter fun c => c.toNat < 128 && c != ' ' && c != '_' && c != '-').map Char.toLower

/-- A name in the form in which names are compared. `is` in front of it is left out, except in front
of a mere `c`, because `isc` is a name of its own. -/
def foldName (cs : List Char) : List Char :=
  match cs with
  | i :: s :: rest =>
    if i.toLower = 'i' ∧ s.toLower = 's' then
      if significant rest = ['c'] then ['i', 's', 'c'] else significant rest
    else significant cs
  | _ => significant cs

def ofName? (cs : List Char) : Option Property :=
  let word := String.ofList (foldName cs)
  (names.find? fun entry => entry.1.contains word).map Prod.snd

def isCategoryValue : Property → Bool
  | alphabetic | uppercase | lowercase | blank | word => false
  | _ => true

example : ofName? "Is_Uppercase-Letter".toList = some (.category .uppercaseLetter) ∧
    ofName? " isLu".toList = none := by decide +kernel

end Property

end Provisioning.Text
