import TagOrganizer.Regex.Property.Binary
import TagOrganizer.Regex.Property.Script

/-!
# Breaks between characters, words and sentences

The classes of characters that tell where a text may be cut into what is read as one character, into
words and into sentences. As in `Binary`, most of them are made up of other properties.
-/

namespace TagOrganizer

namespace Regex

open Property

/-! ### Characters -/

namespace Property

/-- Signs that go on with the character before them, or change its colour. -/
def joined : CharSet := extending.union emojiModifiers

/-- Characters that stand alone. -/
def control : CharSet :=
  (CharSet.unionAll [inCategories ["Zl", "Zp", "Cc"], (inCategories ["Cn"]).intersection invisible,
    (inCategories ["Cf"]).difference (prependedMarks.union (.ofRows ["200C-200D"]))]).difference
    (joined.union (.ofRows ["A D"]))

/-- Vowel signs that are characters of their own. -/
def apart : CharSet := .ofRows
  ["102B-102C 1038 1062-1064 1067-106D 1083 1087-108C 108F 109A-109C 1A61 1A63-1A64 AA7B AA7D",
   "11720-11721"]

/-- Letters that go on with the character behind them. -/
def prependedLetters : CharSet := .ofRows
  ["D4E 111C2-111C3 113D1 1193F 11941 11A3A 11A84-11A89 11D46 11F02"]

/-- The syllables without a consonant at the end, which are every 28th one. -/
def openSyllables : CharSet :=
  .ofCodes ((List.range 399).map fun position => 0xAC00 + 28 * position)

end Property

/-- The classes for cutting a text into characters. -/
def characterBreaks : List (String × CharSet) :=
  [("CN Control", control),
   ("CR", .ofRows ["D"]),
   ("EX Extend", joined),
   ("L", .ofRows ["1100-115F A960-A97C"]),
   ("LF", .ofRows ["A"]),
   ("LV", openSyllables),
   ("LVT", (CharSet.ofRows ["AC00-D7A3"]).difference openSyllables),
   ("PP Prepend", prependedMarks.union prependedLetters),
   ("RI Regional_Indicator", regionalIndicators),
   ("SM SpacingMark",
    ((inCategories ["Mc"]).union (.ofRows ["E33 EB3"])).difference (joined.union apart)),
   ("T", .ofRows ["11A8-11FF D7CB-D7FB"]),
   ("V", .ofRows ["1160-11A7 D7B0-D7C6 16D63 16D67-16D6A"]),
   ("ZWJ", .ofRows ["200D"])]

/-! ### Words -/

namespace Property

/-- Signs that go on with a letter of a word. -/
def joinedInWords : CharSet := .unionAll [extending, inCategories ["Mc"], emojiModifiers]

/-- The letters of words that are written from right to left with marks for vowels. -/
def hebrewLetters : CharSet := (inScript "Hebr").intersection (inCategories ["Lo"])

/-- Signs for syllables of foreign words. -/
def katakana : CharSet := .ofRows
  ["3031-3035 309B-309C 30A0-30FA 30FC-30FF 31F0-31FF 32D0-32FE 3300-3357 FF66-FF9D 1AFF0-1AFF3",
   "1AFF5-1AFFB 1AFFD-1AFFE 1B000 1B120-1B122 1B155 1B164-1B167"]

/-- Characters of scripts without blanks between words. -/
def unspaced : CharSet := .ofRows
  ["E01-E3A E40-E4E E81-E82 E84 E86-E8A E8C-EA3 EA5 EA7-EBD EC0-EC4 EC6 EC8-ECE EDC-EDF 1000-103F",
   "1050-108F 109A-109F 1780-17D3 17D7 17DC-17DD 1950-196D 1970-1974 1980-19AB 19B0-19C9 19DA",
   "19DE-19DF 1A20-1A5E 1A60-1A7C 1AA0-1AAD A9E0-A9EF A9FA-A9FE AA60-AAC2 AADB-AADF 11700-1171A",
   "1171D-1172B 1173A-1173B 1173F-11746"]

/-- The signs in front of numbers. -/
def numberMarks : CharSet := .ofRows ["600-605 6DD 890-891 8E2 110BD 110CD"]

/-- Letters of words between blanks. -/
def wordLetters : CharSet :=
  (alphabetic.union (.ofRows
    ["2C2-2C5 2D2-2D7 2DE-2DF 2E5-2EB 2ED 2EF-2FF 55A-55C 55E 58A 5F3 70F A708-A716 A720-A721",
     "A789-A78A AB5B"])).difference
    (.unionAll [ideographs, katakana, unspaced, inScript "Hira", joinedInWords, hebrewLetters])

end Property

/-- The classes for cutting a text into words. -/
def wordBreaks : List (String × CharSet) :=
  [("CR", .ofRows ["D"]),
   ("DQ Double_Quote", .ofRows ["22"]),
   ("EX ExtendNumLet", .ofRows ["5F 202F 203F-2040 2054 FE33-FE34 FE4D-FE4F FF3F"]),
   ("Extend", joinedInWords),
   ("FO Format",
    (inCategories ["Cf"]).difference (prependedMarks.union (.ofRows ["200B-200D E0020-E007F"]))),
   ("HL Hebrew_Letter", hebrewLetters),
   ("KA Katakana", katakana),
   ("LE ALetter", wordLetters),
   ("LF", .ofRows ["A"]),
   ("MB MidNumLet", .ofRows ["2E 2018-2019 2024 FE52 FF07 FF0E"]),
   ("ML MidLetter", .ofRows ["3A B7 387 55F 5F4 2027 FE13 FE55 FF1A"]),
   ("MN MidNum", .ofRows ["2C 3B 37E 589 60C-60D 66C 7F8 2044 FE10 FE14 FE50 FE54 FF0C FF1B"]),
   ("NL Newline", .ofRows ["B-C 85 2028-2029"]),
   ("NU Numeric", .unionAll [inCategories ["Nd"], .ofRows ["66B"], numberMarks]),
   ("RI Regional_Indicator", regionalIndicators),
   ("SQ Single_Quote", .ofRows ["27"]),
   ("WSegSpace", .ofRows ["20 1680 2000-2006 2008-200A 205F 3000"]),
   ("ZWJ", .ofRows ["200D"])]

/-! ### Sentences -/

namespace Property

/-- Signs that go on with a letter of a sentence. -/
def joinedInSentences : CharSet :=
  .unionAll [extending, inCategories ["Mc"], .ofRows ["200D"]]

/-- Lower case letters that begin sentences too. -/
def caselessLower : CharSet := .ofRows ["10D0-10FA 10FD-10FF"]

/-- Lower case letters of sentences. -/
def sentenceLower : CharSet :=
  lowercase.difference (extending.union caselessLower)

/-- Upper case letters of sentences, without those of a script that does not begin with them. -/
def sentenceUpper : CharSet :=
  (titlecase.union uppercase).difference (.ofRows ["1C90-1CBA 1CBD-1CBF"])

/-- Full stops, which may also stand inside sentences. -/
def fullStops : CharSet := .ofRows ["2E 2024 FE52 FF0E"]

/-- Other signs at the end of sentences. -/
def otherTerminals : CharSet := sentenceTerminals.difference fullStops

end Property

/-- The classes for cutting a text into sentences. -/
def sentenceBreaks : List (String × CharSet) :=
  [("AT ATerm", fullStops),
   ("CL Close",
    ((inCategories ["Ps", "Pe", "Pi", "Pf"]).union
      (.ofRows ["22 27 275B-2760 2E00-2E01 2E06-2E08 2E0B 1F676-1F678"])).difference
        (fullStops.union otherTerminals)),
   ("CR", .ofRows ["D"]),
   ("EX Extend", joinedInSentences),
   ("FO Format",
    (inCategories ["Cf"]).difference (prependedMarks.union (.ofRows ["200C-200D E0020-E007F"]))),
   ("LE OLetter",
    (alphabetic.union (.ofRows ["A0 5F3 70F"])).difference
      (.unionAll [sentenceLower, sentenceUpper, joinedInSentences])),
   ("LF", .ofRows ["A"]),
   ("LO Lower", sentenceLower),
   ("NU Numeric", .unionAll [inCategories ["Nd"], .ofRows ["66B-66C"], numberMarks]),
   ("SC SContinue", .ofRows
      ["2C-2D 3A-3B 37E 55D 60C-60D 7F8 1802 1808 2013-2014 3001 FE10-FE11 FE13-FE14 FE31-FE32",
       "FE50-FE51 FE54-FE55 FE58 FE63 FF0C-FF0D FF1A-FF1B FF64"]),
   ("SE Sep", .ofRows ["85 2028-2029"]),
   ("SP Sp", .ofRows ["9 B-C 20 A0 1680 2000-200A 202F 205F 3000"]),
   ("ST STerm", otherTerminals),
   ("UP Upper", sentenceUpper)]

end Regex

end TagOrganizer
