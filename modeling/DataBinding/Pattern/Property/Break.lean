import DataBinding.Pattern.Property.Case
import DataBinding.Pattern.Property.Emoji
import DataBinding.Pattern.Property.Ideograph
import DataBinding.Pattern.Property.Mark
import DataBinding.Pattern.Property.Script
import DataBinding.Pattern.Property.Sign

namespace DataBinding.Pattern

open Text Repertoire Property

def scripts (names : List String) : CharSet :=
  .unions ((Script.all.filter fun s ↦ s.names.any names.contains).map Script.chars)

namespace Property

def carriageReturn : CharSet := .single '\r'

def lineFeed : CharSet := .single '\n'

def zeroWidthJoiner : CharSet := .single '\u200d'

end Property

namespace GraphemeBreak

def extend : CharSet := graphemeExtend.union emojiModifier

def hangulL : CharSet := .ofSpans [⟨0x1100, 0x115F, 1⟩, ⟨0xA960, 0xA97C, 1⟩]

def hangulV : CharSet := .ofSpans
  [⟨0x1160, 0x11A7, 1⟩, ⟨0xD7B0, 0xD7C6, 1⟩, ⟨0x16D63, 0x16D63, 1⟩, ⟨0x16D67, 0x16D6A, 1⟩]

def hangulT : CharSet := .ofSpans [⟨0x11A8, 0x11FF, 1⟩, ⟨0xD7CB, 0xD7FB, 1⟩]

/-- Syllables without a trailing consonant: one out of 28. -/
def hangulLV : CharSet := .ofSpans [⟨0xAC00, 0xD788, 28⟩]

def hangulLVT : CharSet := (CharSet.range '\uac00' '\ud7a3').diff hangulLV

def prefixedConsonant : CharSet := .ofSpans
  [⟨0xD4E, 0xD4E, 1⟩, ⟨0x111C2, 0x111C3, 1⟩, ⟨0x113D1, 0x113D1, 1⟩, ⟨0x1193F, 0x11941, 2⟩,
   ⟨0x11A3A, 0x11A3A, 1⟩, ⟨0x11A84, 0x11A89, 1⟩, ⟨0x11D46, 0x11D46, 1⟩, ⟨0x11F02, 0x11F02, 1⟩]

def prepended : CharSet := prependedConcatenationMark.union prefixedConsonant

/-- Spacing marks that stand alone. -/
def loneMark : CharSet := .ofSpans
  [⟨0x102B, 0x102C, 1⟩, ⟨0x1038, 0x1038, 1⟩, ⟨0x1062, 0x1064, 1⟩, ⟨0x1067, 0x106D, 1⟩,
   ⟨0x1083, 0x1083, 1⟩, ⟨0x1087, 0x108C, 1⟩, ⟨0x108F, 0x108F, 1⟩, ⟨0x109A, 0x109C, 1⟩,
   ⟨0x1A61, 0x1A63, 2⟩, ⟨0x1A64, 0x1A64, 1⟩, ⟨0xAA7B, 0xAA7D, 2⟩, ⟨0x11720, 0x11721, 1⟩]

def markLikeVowel : CharSet := .ofChars ['\u0e33', '\u0eb3']

def spacingMark : CharSet :=
  ((Repertoire.spacingMark.union markLikeVowel).diff extend).diff loneMark

def control : CharSet :=
  (CharSet.unions [lineSeparator, paragraphSeparator, Repertoire.control, format,
    unassigned.inter defaultIgnorable]).diff
    (.unions [carriageReturn, lineFeed, zeroWidthJoiner, extend, prependedConcatenationMark])

end GraphemeBreak

namespace WordBreak

def numberSign : CharSet := prependedConcatenationMark.diff (.single '\u070f')

def numeric : CharSet := .unions [decimalNumber, .single '\u066b', numberSign]

def extend : CharSet := (CharSet.unions [graphemeExtend, spacingMark, emojiModifier])

def format : CharSet :=
  Repertoire.format.diff
    (.unions [.single '\u200b', zeroWidthJoiner, extend, prependedConcatenationMark])

def newline : CharSet := .ofChars ['\x0b', '\x0c', '\u0085', '\u2028', '\u2029']

def katakanaExtras : CharSet := .ofSpans
  [⟨0x3031, 0x3035, 1⟩, ⟨0x309B, 0x309C, 1⟩, ⟨0x30A0, 0x30A0, 1⟩, ⟨0x30FC, 0x30FC, 1⟩,
   ⟨0xFF70, 0xFF70, 1⟩]

def katakana : CharSet := (scripts ["Katakana"]).union katakanaExtras

def hebrewLetter : CharSet := (scripts ["Hebrew"]).inter otherLetter

def unspaced : CharSet :=
  scripts ["Ahom", "Hiragana", "Khmer", "Lao", "Myanmar", "New_Tai_Lue", "Tai_Le", "Tai_Tham",
    "Tai_Viet", "Thai"]

def letterLike : CharSet := .ofSpans
  [⟨0x2C2, 0x2C5, 1⟩, ⟨0x2D2, 0x2D7, 1⟩, ⟨0x2DE, 0x2DF, 1⟩, ⟨0x2E5, 0x2EB, 1⟩, ⟨0x2ED, 0x2EF, 2⟩,
   ⟨0x2F0, 0x2FF, 1⟩, ⟨0x55A, 0x55C, 1⟩, ⟨0x55E, 0x55E, 1⟩, ⟨0x58A, 0x58A, 1⟩, ⟨0x5F3, 0x5F3, 1⟩,
   ⟨0x70F, 0x70F, 1⟩, ⟨0xA708, 0xA716, 1⟩, ⟨0xA720, 0xA721, 1⟩, ⟨0xA789, 0xA78A, 1⟩,
   ⟨0xAB5B, 0xAB5B, 1⟩]

def alphabeticLetter : CharSet :=
  (alphabetic.union letterLike).diff
    (.unions [ideographic, katakana, unspaced, extend, hebrewLetter, numeric])

def doubleQuote : CharSet := .single '"'

def singleQuote : CharSet := .single '\''

def midLetter : CharSet := .ofSpans
  [⟨0x3A, 0x3A, 1⟩, ⟨0xB7, 0xB7, 1⟩, ⟨0x387, 0x387, 1⟩, ⟨0x55F, 0x55F, 1⟩, ⟨0x5F4, 0x5F4, 1⟩,
   ⟨0x2027, 0x2027, 1⟩, ⟨0xFE13, 0xFE13, 1⟩, ⟨0xFE55, 0xFE55, 1⟩, ⟨0xFF1A, 0xFF1A, 1⟩]

def midNumber : CharSet := .ofSpans
  [⟨0x2C, 0x2C, 1⟩, ⟨0x3B, 0x3B, 1⟩, ⟨0x37E, 0x37E, 1⟩, ⟨0x589, 0x589, 1⟩, ⟨0x60C, 0x60D, 1⟩,
   ⟨0x66C, 0x66C, 1⟩, ⟨0x7F8, 0x7F8, 1⟩, ⟨0x2044, 0x2044, 1⟩, ⟨0xFE10, 0xFE10, 1⟩,
   ⟨0xFE14, 0xFE14, 1⟩, ⟨0xFE50, 0xFE50, 1⟩, ⟨0xFE54, 0xFE54, 1⟩, ⟨0xFF0C, 0xFF0C, 1⟩,
   ⟨0xFF1B, 0xFF1B, 1⟩]

def midNumberLetter : CharSet := .ofSpans
  [⟨0x2E, 0x2E, 1⟩, ⟨0x2018, 0x2019, 1⟩, ⟨0x2024, 0x2024, 1⟩, ⟨0xFE52, 0xFE52, 1⟩,
   ⟨0xFF07, 0xFF07, 1⟩, ⟨0xFF0E, 0xFF0E, 1⟩]

def extendNumberLetter : CharSet := connectorPunctuation.union (.single '\u202f')

def space : CharSet := spaceSeparator.diff (.ofChars ['\u00a0', '\u2007', '\u202f'])

end WordBreak

namespace SentenceBreak

def separator : CharSet := .ofChars ['\u0085', '\u2028', '\u2029']

def extend : CharSet := .unions [graphemeExtend, spacingMark, zeroWidthJoiner]

def numeric : CharSet := WordBreak.numeric.union (.single '\u066c')

def format : CharSet := Repertoire.format.diff (extend.union numeric)

def space : CharSet := whiteSpace.diff (.unions [carriageReturn, lineFeed, separator])

def lower : CharSet := (lowercase.diff graphemeExtend).diff georgianLetter

def georgianCapital : CharSet := .ofSpans [⟨0x1C90, 0x1CBA, 1⟩, ⟨0x1CBD, 0x1CBF, 1⟩]

def upper : CharSet := (titlecaseLetter.union uppercase).diff georgianCapital

def otherLetter : CharSet :=
  (alphabetic.union (.single '\u05f3')).diff (.unions [lower, upper, extend, numeric])

def ambiguousEnd : CharSet := .ofSpans
  [⟨0x2E, 0x2E, 1⟩, ⟨0x2024, 0x2024, 1⟩, ⟨0xFE52, 0xFE52, 1⟩, ⟨0xFF0E, 0xFF0E, 1⟩]

def continuation : CharSet := .ofSpans
  [⟨0x2C, 0x2D, 1⟩, ⟨0x3A, 0x3B, 1⟩, ⟨0x37E, 0x37E, 1⟩, ⟨0x55D, 0x55D, 1⟩, ⟨0x60C, 0x60D, 1⟩,
   ⟨0x7F8, 0x7F8, 1⟩, ⟨0x1802, 0x1802, 1⟩, ⟨0x1808, 0x1808, 1⟩, ⟨0x2013, 0x2014, 1⟩,
   ⟨0x3001, 0x3001, 1⟩, ⟨0xFE10, 0xFE11, 1⟩, ⟨0xFE13, 0xFE14, 1⟩, ⟨0xFE31, 0xFE32, 1⟩,
   ⟨0xFE50, 0xFE51, 1⟩, ⟨0xFE54, 0xFE55, 1⟩, ⟨0xFE58, 0xFE58, 1⟩, ⟨0xFE63, 0xFE63, 1⟩,
   ⟨0xFF0C, 0xFF0D, 1⟩, ⟨0xFF1A, 0xFF1B, 1⟩, ⟨0xFF64, 0xFF64, 1⟩]

def finalEnd : CharSet := sentenceTerminal.diff ambiguousEnd

def quotation : CharSet := .ofSpans
  [⟨0x22, 0x22, 1⟩, ⟨0x27, 0x27, 1⟩, ⟨0x275B, 0x2760, 1⟩, ⟨0x2E00, 0x2E01, 1⟩,
   ⟨0x2E06, 0x2E08, 1⟩, ⟨0x2E0B, 0x2E0B, 1⟩, ⟨0x1F676, 0x1F678, 1⟩]

def close : CharSet := (sided.union quotation).diff (ambiguousEnd.union finalEnd)

end SentenceBreak

end DataBinding.Pattern
