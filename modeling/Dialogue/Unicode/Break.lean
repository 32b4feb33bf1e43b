import Dialogue.Text.Basic
import Dialogue.Unicode.Property
import Dialogue.Unicode.Script

/-! What a character does at the edges of grapheme clusters, words and sentences. -/
namespace Dialogue.Unicode

/-! ## Grapheme clusters -/

/-- Carriage return, line feed and the zero-width joiner, each a class of its own. -/
def carriageReturn : CharSet := ⟨[(0xD, 0xD)]⟩
def lineFeed : CharSet := ⟨[(0xA, 0xA)]⟩
def zeroWidthJoiner : CharSet := ⟨[(0x200D, 0x200D)]⟩

def regionalIndicator : CharSet := table "regionalindicator"

/-- Format characters that stand before what they act on. -/
def prepended : CharSet := table "prependedconcatenationmark"

/-- Characters that join the one before them: extending ones and modifiers of emoji. -/
def graphemeExtender : CharSet :=
  graphemeExtend.union (table "emojimodifier")

/-- Letters that join the one after them: prefixed forms and rephas. -/
def prefixed : CharSet := readRanges
  "D4E 111C2-111C3 113D1 1193F 11941 11A3A 11A84-11A89 11D46 11F02"

/-- Separators, controls and format characters without a class of their own. -/
def graphemeControl : CharSet :=
  let invisible := (categories ["Cn"]).inter (table "defaultignorablecodepoint")
  let others := ((carriageReturn.union lineFeed).union ⟨[(0x200C, 0x200D)]⟩).union prepended
  ((categories ["Zl", "Zp", "Cc", "Cf"]).union invisible).diff (others.union graphemeExtend)

/-- Spacing marks that stay apart from the character before them. -/
def looseMark : CharSet := readRanges
  "102B-102C 1038 1062-1064 1067-106D 1083 1087-108C 108F 109A-109C 1A61 1A63-1A64 AA7B AA7D
11720-11721"

/-- Marks that take up space, and the vowel signs am of Thai and Lao. -/
def graphemeMark : CharSet :=
  ((categories ["Mc"]).diff (looseMark.union graphemeExtend)).union
    ⟨[(0xE33, 0xE33), (0xEB3, 0xEB3)]⟩

/-- Hangul syllables are grouped by vowel: the first of each group has no final consonant. -/
def openSyllable : CharSet :=
  ⟨(List.range 399).map fun i => (0xAC00 + 28 * i, 0xAC00 + 28 * i)⟩

def closedSyllable : CharSet :=
  ⟨(List.range 399).map fun i => (0xAC00 + 28 * i + 1, 0xAC00 + 28 * i + 27)⟩

/-- The characters of a class, by its simplified name. -/
def graphemeBreak? : String → Option CharSet
  | "cn" | "control" => some graphemeControl
  | "cr" => some carriageReturn
  | "ex" | "extend" => some graphemeExtender
  | "l" => some ⟨[(0x1100, 0x115F), (0xA960, 0xA97C)]⟩
  | "lf" => some lineFeed
  | "lv" => some openSyllable
  | "lvt" => some closedSyllable
  | "pp" | "prepend" => some (prepended.union prefixed)
  | "ri" | "regionalindicator" => some regionalIndicator
  | "sm" | "spacingmark" => some graphemeMark
  | "t" => some ⟨[(0x11A8, 0x11FF), (0xD7CB, 0xD7FB)]⟩
  | "v" => some ⟨[(0x1160, 0x11A7), (0xD7B0, 0xD7C6), (0x16D63, 0x16D63), (0x16D67, 0x16D6A)]⟩
  | "zwj" => some zeroWidthJoiner
  | _ => none

/-! ## Words -/

/-- Katakana, and marks and signs that are used with it. -/
def katakanaLetter : CharSet :=
  ((script? "katakana").getD .empty).union
    ⟨[(0x3031, 0x3035), (0x309B, 0x309C), (0x30A0, 0x30A0), (0x30FC, 0x30FC), (0xFF70, 0xFF70)]⟩

def hebrewLetter : CharSet :=
  ((script? "hebrew").getD .empty).inter (categories ["Lo"])

/-- Characters that words look past: extending characters and spacing marks. -/
def wordExtender : CharSet :=
  graphemeExtender.union (categories ["Mc"])

/-- Format characters that words look past. -/
def wordFormat : CharSet :=
  (categories ["Cf"]).diff ((prepended.union ⟨[(0x200B, 0x200D)]⟩).union graphemeExtend)

/-- Signs that stand before numbers: all prepended ones but the abbreviation mark of Syriac. -/
def numberSign : CharSet :=
  prepended.diff ⟨[(0x70F, 0x70F)]⟩

/-- Letters of scripts in which words are not set apart. -/
def runOn : CharSet := readRanges
  "E01-E30 E32-E33 E40-E46 E81-E82 E84 E86-E8A E8C-EA3 EA5 EA7-EB0 EB2-EB3 EBD EC0-EC4 EC6 EDC-EDF
1000-102A 103F 1050-1055 105A-105D 1061 1065-1066 106E-1070 1075-1081 108E 1780-17B3 17D7 17DC
1950-196D 1970-1974 1980-19AB 19B0-19C9 1A20-1A54 1AA7 A9E0-A9E4 A9E6-A9EF A9FA-A9FE AA60-AA76
AA7A AA7E-AAAF AAB1 AAB5-AAB6 AAB9-AABD AAC0 AAC2 AADB-AADD 11700-1171A 11740-11746"

/-- Signs that belong to words though they are no letters. -/
def wordSign : CharSet := readRanges
  "B8 2C2-2C5 2D2-2D7 2DE-2DF 2E5-2EB 2ED 2EF-2FF 55A-55C 55E 58A 5F3 70F A708-A716 A720-A721
A789-A78A AB5B"

/-- Letters of scripts that set words apart. -/
def wordLetter : CharSet :=
  let others := (katakanaLetter.union hebrewLetter).union ((script? "hiragana").getD .empty)
  (alphabetic.union wordSign).diff
    ((others.union wordExtender).union ((table "ideographic").union runOn))

/-- The characters of a class, by its simplified name. -/
def wordBreak? : String → Option CharSet
  | "cr" => some carriageReturn
  | "dq" | "doublequote" => some ⟨[(0x22, 0x22)]⟩
  | "ex" | "extendnumlet" => some ((categories ["Pc"]).union ⟨[(0x202F, 0x202F)]⟩)
  | "extend" => some wordExtender
  | "fo" | "format" => some wordFormat
  | "hl" | "hebrewletter" => some hebrewLetter
  | "ka" | "katakana" => some katakanaLetter
  | "le" | "aletter" => some wordLetter
  | "lf" => some lineFeed
  | "mb" | "midnumlet" => some (readRanges "2E 2018-2019 2024 FE52 FF07 FF0E")
  | "ml" | "midletter" => some (readRanges "3A B7 387 55F 5F4 2027 FE13 FE55 FF1A")
  | "mn" | "midnum" =>
    some (readRanges "2C 3B 37E 589 60C-60D 66C 7F8 2044 FE10 FE14 FE50 FE54 FF0C FF1B")
  | "nl" | "newline" => some (readRanges "B-C 85 2028-2029")
  | "nu" | "numeric" => some (((categories ["Nd"]).union numberSign).union ⟨[(0x66B, 0x66B)]⟩)
  | "ri" | "regionalindicator" => some regionalIndicator
  | "sq" | "singlequote" => some ⟨[(0x27, 0x27)]⟩
  | "wsegspace" => some (readRanges "20 1680 2000-2006 2008-200A 205F 3000")
  | "zwj" => some zeroWidthJoiner
  | _ => none

/-! ## Sentences -/

def paragraphSeparator : CharSet := readRanges "85 2028-2029"

/-- Full stops, which may end a sentence or an abbreviation. -/
def fullStop : CharSet := readRanges "2E 2024 FE52 FF0E"

def sentenceExtender : CharSet :=
  (graphemeExtend.union (categories ["Mc"])).union zeroWidthJoiner

/-- Lowercase characters, but not the letters of Georgian, whose capitals begin no sentences. -/
def sentenceLower : CharSet :=
  lowercase.diff (graphemeExtend.union ⟨[(0x10D0, 0x10FA), (0x10FD, 0x10FF)]⟩)

def sentenceUpper : CharSet :=
  (uppercase.union (categories ["Lt"])).diff ⟨[(0x1C90, 0x1CBA), (0x1CBD, 0x1CBF)]⟩

/-- Letters that are neither lower nor upper at a sentence's edge. -/
def sentenceLetter : CharSet :=
  (alphabetic.union ⟨[(0x5F3, 0x5F3)]⟩).diff
    ((sentenceLower.union sentenceUpper).union sentenceExtender)

def closing : CharSet :=
  (categories ["Ps", "Pe", "Pi", "Pf"]).union
    (readRanges "22 27 275B-2760 2E00-2E01 2E06-2E08 2E0B 1F676-1F678")

/-- Punctuation after which a sentence goes on. -/
def continuing : CharSet := readRanges
  "2C-2D 3A-3B 37E 55D 60C-60D 7F8 1802 1808 2013-2014 3001 FE10-FE11 FE13-FE14 FE31-FE32 FE50-FE51
FE54-FE55 FE58 FE63 FF0C-FF0D FF1A-FF1B FF64"

def sentenceFormat : CharSet :=
  (categories ["Cf"]).diff ((numberSign.union ⟨[(0x200C, 0x200D)]⟩).union graphemeExtend)

/-- The characters of a class, by its simplified name. -/
def sentenceBreak? : String → Option CharSet
  | "at" | "aterm" => some fullStop
  | "cl" | "close" => some closing
  | "cr" => some carriageReturn
  | "ex" | "extend" => some sentenceExtender
  | "fo" | "format" => some sentenceFormat
  | "le" | "oletter" => some sentenceLetter
  | "lf" => some lineFeed
  | "lo" | "lower" => some sentenceLower
  | "nu" | "numeric" => some (((categories ["Nd"]).union numberSign).union ⟨[(0x66B, 0x66C)]⟩)
  | "sc" | "scontinue" => some continuing
  | "se" | "sep" => some paragraphSeparator
  | "sp" => some (Text.blank.diff ((carriageReturn.union lineFeed).union paragraphSeparator))
  | "st" | "sterm" => some ((table "sentenceterminal").diff fullStop)
  | "up" | "upper" => some sentenceUpper
  | _ => none

end Dialogue.Unicode
