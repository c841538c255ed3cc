import Scopemark.Unicode.Property
import Scopemark.Unicode.Script

namespace Scopemark.Unicode

def prepended : CharSet := ofProperty "Prepended_Concatenation_Mark"

def numberSigns : CharSet := prepended.diff (.readTable "70F")

def openSyllables : CharSet :=
  .ofRanges ((List.range 399).map fun i => (0xAC00 + 28 * i, 0xAC00 + 28 * i))

def graphemeControl : CharSet :=
  ((ofCategories ["Zl", "Zp", "Cc", "Cf"]).union (defaultIgnorable.inter assigned.compl)).diff
    (.unions [.readTable "A D 200C-200D", prepended, graphemeExtend])

/-- Marks that stay with the character before them and take up room. Some signs of Burmese and its
neighbours do not count, two vowels of Thai and Lao do. -/
def spacingMark : CharSet :=
  (((ofCategory "Mc").diff graphemeExtend).diff (.readTable "
102B-102C 1038 1062-1064 1067-106D 1083 1087-108C 108F 109A-109C 1A61 1A63-1A64 AA7B AA7D
11720-11721")).union (.readTable "E33 EB3")

def graphemeBreaks : List (List String × (Unit → CharSet)) := [
  (["Control", "CN"], fun _ => graphemeControl),
  (["CR"], fun _ => .singleton '\r'),
  (["Extend", "EX"], fun _ => graphemeExtend.union (ofProperty "Emoji_Modifier")),
  (["L"], fun _ => .readTable "1100-115F A960-A97C"),
  (["LF"], fun _ => .singleton '\n'),
  (["LV"], fun _ => openSyllables),
  (["LVT"], fun _ => (CharSet.readTable "AC00-D7A3").diff openSyllables),
  (["Prepend", "PP"], fun _ =>
    prepended.union (.readTable "D4E 111C2-111C3 113D1 1193F 11941 11A3A 11A84-11A89 11D46 11F02")),
  (["Regional_Indicator", "RI"], fun _ => ofProperty "Regional_Indicator"),
  (["SpacingMark", "SM"], fun _ => spacingMark),
  (["T"], fun _ => .readTable "11A8-11FF D7CB-D7FB"),
  (["V"], fun _ => .readTable "1160-11A7 D7B0-D7C6 16D63 16D67-16D6A"),
  (["ZWJ"], fun _ => .readTable "200D")]

def wordExtend : CharSet :=
  (CharSet.unions [graphemeExtend, ofCategory "Mc", ofProperty "Emoji_Modifier"]).diff
    (.readTable "200D")

def wordKatakana : CharSet :=
  (ofScript "Katakana").union (.readTable "3031-3035 309B-309C 30A0 30FC FF70")

def hebrewLetters : CharSet := (ofScript "Hebrew").inter (ofCategory "Lo")

def unspacedLetters : CharSet := .readTable "
E01-E30 E32-E33 E40-E46 E81-E82 E84 E86-E8A E8C-EA3 EA5 EA7-EB0 EB2-EB3 EBD EC0-EC4 EC6 EDC-EDF
1000-102A 103F 1050-1055 105A-105D 1061 1065-1066 106E-1070 1075-1081 108E 1780-17B3 17D7 17DC
1950-196D 1970-1974 1980-19AB 19B0-19C9 1A20-1A54 1AA7 A9E0-A9E4 A9E6-A9EF A9FA-A9FE AA60-AA76
AA7A AA7E-AAAF AAB1 AAB5-AAB6 AAB9-AABD AAC0 AAC2 AADB-AADD 11700-1171A 11740-11746"

def wordLetters : CharSet :=
  (alphabetic.diff (.unions [ofProperty "Ideographic", wordKatakana, ofScript "Hiragana", wordExtend,
    hebrewLetters, unspacedLetters])).union (.readTable "
2C2-2C5 2D2-2D7 2DE-2DF 2E5-2EB 2ED 2EF-2FF 55A-55C 55E 58A 5F3 70F A708-A716 A720-A721 A789-A78A
AB5B")

def wordBreaks : List (List String × (Unit → CharSet)) := [
  (["ALetter", "LE"], fun _ => wordLetters),
  (["CR"], fun _ => .singleton '\r'),
  (["Double_Quote", "DQ"], fun _ => .readTable "22"),
  (["Extend"], fun _ => wordExtend),
  (["ExtendNumLet", "EX"], fun _ => (ofCategory "Pc").union (.readTable "202F")),
  (["Format", "FO"], fun _ =>
    (ofCategory "Cf").diff (.unions [.readTable "200B-200D", graphemeExtend, prepended])),
  (["Hebrew_Letter", "HL"], fun _ => hebrewLetters),
  (["Katakana", "KA"], fun _ => wordKatakana),
  (["LF"], fun _ => .singleton '\n'),
  (["MidLetter", "ML"], fun _ => .readTable "3A B7 387 55F 5F4 2027 FE13 FE55 FF1A"),
  (["MidNum", "MN"], fun _ => .readTable "2C 3B 37E 589 60C-60D 66C 7F8 2044 FE50 FE54 FF0C FF1B"),
  (["MidNumLet", "MB"], fun _ => .readTable "2E 2018-2019 2024 FE52 FF07 FF0E"),
  (["Newline", "NL"], fun _ => .readTable "B-C 85 2028-2029"),
  (["Numeric", "NU"], fun _ => .unions [decimalDigits, numberSigns, .readTable "66B 19DA"]),
  (["Regional_Indicator", "RI"], fun _ => ofProperty "Regional_Indicator"),
  (["Single_Quote", "SQ"], fun _ => .readTable "27"),
  (["WSegSpace"], fun _ => .readTable "20 1680 2000-2006 2008-200A 205F 3000"),
  (["ZWJ"], fun _ => .readTable "200D")]

def sentenceExtend : CharSet := .unions [graphemeExtend, ofCategory "Mc", .readTable "200D"]

/-- Small letters but for those of Georgian, which sentences do not tell apart. -/
def sentenceLower : CharSet := (lowercase.diff graphemeExtend).diff (.readTable "10D0-10FA 10FD-10FF")

def sentenceUpper : CharSet :=
  (uppercase.union (ofCategory "Lt")).diff (.readTable "1C90-1CBA 1CBD-1CBF")

def sentenceStops : CharSet := .readTable "2E 2024 FE52 FF0E"

def sentenceSeparators : CharSet := .readTable "85 2028-2029"

def sentenceBreaks : List (List String × (Unit → CharSet)) := [
  (["ATerm", "AT"], fun _ => sentenceStops),
  (["CR"], fun _ => .singleton '\r'),
  (["Close", "CL"], fun _ =>
    (CharSet.unions [ofCategories ["Ps", "Pe"], ofProperty "Quotation_Mark", .readTable
      "275B-2760 2E00-2E0D 2E1C-2E1D 2E20-2E21 1F676-1F678"]).diff (.readTable "FF02 FF07")),
  (["Extend", "EX"], fun _ => sentenceExtend),
  (["Format", "FO"], fun _ =>
    (ofCategory "Cf").diff (.unions [.readTable "200C-200D", graphemeExtend, numberSigns])),
  (["LF"], fun _ => .singleton '\n'),
  (["Lower", "LO"], fun _ => sentenceLower),
  (["Numeric", "NU"], fun _ => .unions [decimalDigits, numberSigns, .readTable "66B-66C 19DA"]),
  (["OLetter", "LE"], fun _ =>
    (alphabetic.diff (.unions [sentenceLower, sentenceUpper, sentenceExtend])).union
      (.readTable "5F3")),
  (["SContinue", "SC"], fun _ => .readTable "
2C-2D 3A-3B 37E 55D 60C-60D 7F8 1802 1808 2013-2014 3001 FE10-FE11 FE13-FE14 FE31-FE32 FE50-FE51
FE54-FE55 FE58 FE63 FF0C-FF0D FF1A-FF1B FF64"),
  (["Sep", "SE"], fun _ => sentenceSeparators),
  (["Sp"], fun _ => whiteSpace.diff (sentenceSeparators.union (.readTable "A D"))),
  (["STerm", "ST"], fun _ => (ofProperty "Sentence_Terminal").diff sentenceStops),
  (["Upper", "UP"], fun _ => sentenceUpper)]

def classOf? (classes : List (List String × (Unit → CharSet))) (name : List Char) : Option CharSet :=
  (classes.find? fun c => hasName c.1 name).map fun c => c.2 ()

end Scopemark.Unicode
