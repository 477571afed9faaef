import BuildGate.Unicode.Property
import BuildGate.Unicode.ScriptTable

/-!
# Where text may be divided

The values of `Grapheme_Cluster_Break`, `Word_Break` and `Sentence_Break`. Unicode derives most of
them from categories, scripts and binary properties, with a few characters added or taken away by
hand; the sets here are computed the same way. Each function gives `none` for a value that no
character has, `Other` too: the characters without a class of their own have no set.
-/
namespace BuildGate.Unicode

/-- The code points that a list in the notation of `Charset.readTable` writes. -/
def codes (text : String) : Charset := .ofTable text

def script (name : String) : Charset := tableSet scriptTable name

/-- Marks that join the character before them in every kind of text. -/
def joinedMarks : Charset := graphemeExtend.union (tableSet propertyTable "Emoji_Modifier")

/-- Marks in front of the number that they belong to. -/
def prefixMarks : Charset := tableSet propertyTable "Prepended_Concatenation_Mark"

def joiner : Charset := codes "200D"

/-! ## Characters as readers see them -/

/-- Syllables of Hangul that end in a vowel: every twenty-eighth one. -/
def openSyllables : Charset :=
  .ofRanges ((List.range 399).map fun i => (0xAC00 + 28 * i, 0xAC00 + 28 * i))

/-- Marks with a width of their own that do not join the character before them. -/
def separateMarks : Charset :=
  codes ("102B-102C 1038 1062-1064 1067-106D 1083 1087-108C 108F 109A-109C 1A61 1A63-1A64 AA7B " ++
    "AA7D 11720-11721")

/-- Unassigned code points that are ignored are controls as well. -/
def graphemeControl : Charset :=
  ((categories ["Cc", "Cf", "Zl", "Zp"]).union
    ((category "Cn").inter (tableSet propertyTable "Default_Ignorable_Code_Point"))).diff
      (.unions [codes "A D", joiner, joinedMarks, prefixMarks])

def graphemeBreak : String → Option Charset
  | "CR" => some (codes "D")
  | "LF" => some (codes "A")
  | "Control" => some graphemeControl
  | "Extend" => some joinedMarks
  | "ZWJ" => some joiner
  | "Regional_Indicator" => some (tableSet propertyTable "Regional_Indicator")
  | "Prepend" =>
    some (prefixMarks.union (codes
      "D4E 111C2-111C3 113D1 1193F 11941 11A84-11A89 11D46 11F02"))
  | "SpacingMark" =>
    some (((category "Mc").union (codes "E33 EB3")).diff (graphemeExtend.union separateMarks))
  | "L" => some (codes "1100-115F A960-A97C")
  | "V" => some (codes "1160-11A7 D7B0-D7C6 16D63 16D67-16D6A")
  | "T" => some (codes "11A8-11FF D7CB-D7FB")
  | "LV" => some openSyllables
  | "LVT" => some ((codes "AC00-D7A3").diff openSyllables)
  | _ => none

/-! ## Words -/

/-- Marks that never begin a word. -/
def wordExtend : Charset := (joinedMarks.union (category "Mc")).diff joiner

def katakana : Charset := (script "Katakana").union (codes "3031-3035 309B-309C 30A0 30FC FF70")

def hebrewLetters : Charset := (script "Hebrew").inter (category "Lo")

/-- Digits, and the marks of numbers but for the one that abbreviates in Syriac. -/
def wordNumeric : Charset :=
  .unions [category "Nd", codes "66B 19DA", prefixMarks.diff (codes "70F")]

/-- Letters of scripts that write no spaces: their words are found by a dictionary. -/
def unspaced : Charset :=
  .unions (["Ahom", "Hiragana", "Khmer", "Lao", "Myanmar", "New_Tai_Lue", "Tai_Le", "Tai_Tham",
    "Tai_Viet", "Thai"].map script)

/-- Letters, and the signs that words of some language hold. -/
def wordLetters : Charset :=
  (alphabetic.union (codes
    ("B8 2C2-2C5 2D2-2D7 2DE-2DF 2E5-2EB 2ED 2EF-2FF 55A-55C 55E 58A 5F3 70F A708-A716 " ++
      "A720-A721 A789-A78A AB5B"))).diff
    (.unions [tableSet propertyTable "Ideographic", katakana, unspaced, wordExtend, hebrewLetters])

def wordBreak : String → Option Charset
  | "CR" => some (codes "D")
  | "LF" => some (codes "A")
  | "Newline" => some (codes "B-C 85 2028-2029")
  | "Extend" => some wordExtend
  | "ZWJ" => some joiner
  | "Format" => some ((category "Cf").diff (.unions [codes "200B-200D", wordExtend, prefixMarks]))
  | "Regional_Indicator" => some (tableSet propertyTable "Regional_Indicator")
  | "Katakana" => some katakana
  | "Hebrew_Letter" => some hebrewLetters
  | "ALetter" => some wordLetters
  | "Single_Quote" => some (codes "27")
  | "Double_Quote" => some (codes "22")
  | "MidNumLet" => some (codes "2E 2018-2019 2024 FE52 FF07 FF0E")
  | "MidLetter" => some (codes "3A B7 387 55F 5F4 2027 FE13 FE55 FF1A")
  | "MidNum" =>
    some (codes "2C 3B 37E 589 60C-60D 66C 7F8 2044 FE50 FE54 FF0C FF1B")
  | "Numeric" => some wordNumeric
  | "ExtendNumLet" => some ((category "Pc").union (codes "202F"))
  | "WSegSpace" => some ((category "Zs").diff (codes "A0 2007 202F"))
  | _ => none

/-! ## Sentences -/

def sentenceExtend : Charset := .unions [graphemeExtend, category "Mc", joiner]

def sentenceEnds : Charset := codes "2E 2024 FE52 FF0E"

/-- Small letters; those of Georgian have no capitals in sentences. -/
def sentenceLower : Charset := lowercase.diff (graphemeExtend.union (codes "10D0-10FA 10FD-10FF"))

def sentenceUpper : Charset :=
  (uppercase.union (category "Lt")).diff (codes "1C90-1CBA 1CBD-1CBF")

def sentenceNumeric : Charset := wordNumeric.union (codes "66C")

def sentenceBreak : String → Option Charset
  | "CR" => some (codes "D")
  | "LF" => some (codes "A")
  | "Sep" => some (codes "85 2028-2029")
  | "Extend" => some sentenceExtend
  | "Format" =>
    some ((category "Cf").diff (.unions [codes "200C", sentenceExtend, sentenceNumeric]))
  | "Sp" => some (blanks.diff (codes "A D 85 2028-2029"))
  | "Lower" => some sentenceLower
  | "Upper" => some sentenceUpper
  | "OLetter" =>
    some ((alphabetic.union (codes "5F3")).diff
      (.unions [sentenceLower, sentenceUpper, sentenceExtend]))
  | "Numeric" => some sentenceNumeric
  | "ATerm" => some sentenceEnds
  | "STerm" => some ((tableSet propertyTable "Sentence_Terminal").diff sentenceEnds)
  | "SContinue" =>
    some (codes ("2C-2D 3A-3B 37E 55D 60C-60D 7F8 1802 1808 2013-2014 3001 FE10-FE11 FE13-FE14 " ++
      "FE31-FE32 FE50-FE51 FE54-FE55 FE58 FE63 FF0C-FF0D FF1A-FF1B FF64"))
  | "Close" =>
    some ((categories ["Ps", "Pe", "Pi", "Pf"]).union (codes
      "22 27 275B-2760 2E00-2E01 2E06-2E08 2E0B 1F676-1F678"))
  | _ => none

end BuildGate.Unicode
