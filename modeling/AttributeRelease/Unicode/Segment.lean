import AttributeRelease.Unicode.Script
import AttributeRelease.Unicode.Property

/-!
How characters take part in the division of texts into what a reader takes for single characters, into words
and into sentences. The classes are those of the sixteenth edition of the Unicode standard.
-/

namespace AttributeRelease.Unicode.Segment

open Property Category

/-- Marks that belong to the character after them. -/
def prepended : CharSet :=
  prependedMark ∪ .ofText "d4e 111c2-111c3 113d1 1193f 11941 11a3a 11a84-11a89 11d46 11f02"

/-- Characters that continue the one before them. -/
def continuing : CharSet := graphemeExtend ∪ emojiModifier

/-- Characters that stand alone. -/
def controlling : CharSet :=
  (lineSeparator ∪ paragraphSeparator ∪ control ∪ format ∪ (unassigned ∩ defaultIgnorable)) \
    (.ofText "a d 200d" ∪ continuing ∪ prepended)

/-- Marks that take room and yet belong to the character before them. -/
def spacing : CharSet :=
  (spacingMark ∪ .ofText "e33 eb3") \ (graphemeExtend ∪
    .ofText "102b-102c 1038 1062-1064 1067-106d 1083 1087-108c 108f 109a-109c 1a61 1a63-1a64 aa7b aa7d
      11720-11721")

/-- Hangul syllables without a final consonant. -/
def openSyllable : CharSet := .ofText "ac00-d788/1c"

def graphemes : List (List String × CharSet) :=
  [(["cr"], .single 0xD), (["lf"], .single 0xA), (["zwj"], .single 0x200D), (["control", "cn"], controlling),
   (["extend", "ex"], continuing), (["regionalindicator", "ri"], regionalIndicator),
   (["prepend", "pp"], prepended), (["spacingmark", "sm"], spacing), (["l"], .ofText "1100-115f a960-a97c"),
   (["v"], .ofText "1160-11a7 d7b0-d7c6 16d63 16d67-16d6a"), (["t"], .ofText "11a8-11ff d7cb-d7fb"),
   (["lv"], openSyllable), (["lvt"], .interval 0xAC00 0xD7A3 \ openSyllable)]

/-- Marks before digits that count as digits themselves. -/
def numericMark : CharSet := prependedMark \ .single 0x70F

def numeric : CharSet := decimalNumber ∪ numericMark ∪ .single 0x66B

/-- Characters within words that continue the one before them. -/
def wordContinuing : CharSet := continuing ∪ spacingMark

def katakana : CharSet :=
  ((Script.ofName? "katakana").elim .empty (·.own)) ∪ .ofText "3031-3035 309b-309c 30a0 30fc ff70"

def hebrewLetter : CharSet := ((Script.ofName? "hebrew").elim .empty (·.own)) ∩ otherLetter

/-- Letters of scripts that put no blanks between words. -/
def unspacedLetter : CharSet :=
  .ofText "e01-e3a e40-e46 e4d e81-e82 e84 e86-e8a e8c-ea3 ea5 ea7-eb9 ebb-ebd ec0-ec4 ec6 ecd edc-edf
    1000-1036 1038 103b-103f 1050-108f 109a-109d 1780-17b3 17b6-17c8 17d7 17dc 1950-196d 1970-1974
    1980-19ab 19b0-19c9 1a20-1a5e 1a61-1a74 1aa7 a9e0-a9ef a9fa-a9fe aa60-aa76 aa7a-aabe aac0 aac2
    aadb-aadd 11700-1171a 1171d-1172a 11740-11746"

/-- Characters that count as letters within words although they are none. -/
def otherWordLetter : CharSet :=
  .ofText "2c2-2c5 2d2-2d7 2de-2df 2e5-2eb 2ed 2ef-2ff 55a-55c 55e 58a 5f3 70f a708-a716 a720-a721 a789-a78a ab5b"

/-- Letters of words with blanks between them. -/
def wordLetter : CharSet :=
  (alphabetic ∪ otherWordLetter) \ (ideographic ∪ katakana ∪ hebrewLetter ∪ unspacedLetter ∪ wordContinuing ∪
    (Script.ofName? "hiragana").elim .empty (·.own))

def wordClasses : List (List String × CharSet) :=
  [(["cr"], .single 0xD), (["lf"], .single 0xA), (["newline", "nl"], .ofText "b-c 85 2028-2029"),
   (["zwj"], .single 0x200D), (["extend"], wordContinuing), (["regionalindicator", "ri"], regionalIndicator),
   (["format", "fo"], format \ (prependedMark ∪ continuing ∪ .ofText "200b-200d")),
   (["katakana", "ka"], katakana), (["hebrewletter", "hl"], hebrewLetter), (["aletter", "le"], wordLetter),
   (["singlequote", "sq"], .single 0x27), (["doublequote", "dq"], .single 0x22),
   (["midnumlet", "mb"], .ofText "2e 2018-2019 2024 fe52 ff07 ff0e"),
   (["midletter", "ml"], .ofText "3a b7 387 55f 5f4 2027 fe13 fe55 ff1a"),
   (["midnum", "mn"], .ofText "2c 3b 37e 589 60c-60d 66c 7f8 2044 fe10 fe14 fe50 fe54 ff0c ff1b"),
   (["numeric", "nu"], numeric), (["extendnumlet", "ex"], connectorPunctuation ∪ .single 0x202F),
   (["wsegspace"], spaceSeparator \ .ofText "a0 2007 202f")]

/-- Characters that continue the one before them, joiners included. -/
def sentenceContinuing : CharSet := graphemeExtend ∪ spacingMark ∪ .single 0x200D

/-- Lower-case letters of Georgian, which begin sentences too. -/
def georgian : CharSet := .ofText "10d0-10fa 10fd-10ff"

/-- Lower-case characters that no sentence begins with. -/
def sentenceLower : CharSet := lowercase \ (graphemeExtend ∪ georgian)

/-- Upper-case characters; Georgian does not mark the beginning of a sentence by them. -/
def sentenceUpper : CharSet := (uppercase ∪ titlecaseLetter) \ .ofText "1c90-1cba 1cbd-1cbf"

/-- Full stops, which need not end a sentence. -/
def fullStop : CharSet := .ofText "2e 2024 fe52 ff0e"

/-- Ornaments and marks that quote. -/
def otherQuote : CharSet := .ofText "22 27 275b-2760 2e00-2e01 2e06-2e08 2e0b 1f676-1f678"

def sentences : List (List String × CharSet) :=
  [(["cr"], .single 0xD), (["lf"], .single 0xA), (["sep", "se"], .ofText "85 2028-2029"),
   (["extend", "ex"], sentenceContinuing), (["format", "fo"], format \ (numericMark ∪ sentenceContinuing)),
   (["sp"], whiteSpace \ .ofText "a d 85 2028-2029"), (["lower", "lo"], sentenceLower),
   (["upper", "up"], sentenceUpper),
   (["oletter", "le"], (alphabetic ∪ .single 0x5F3) \ (sentenceContinuing ∪ sentenceLower ∪ sentenceUpper)),
   (["numeric", "nu"], numeric ∪ .single 0x66C), (["aterm", "at"], fullStop),
   (["sterm", "st"], sentenceTerminal \ fullStop),
   (["close", "cl"], openPunctuation ∪ closePunctuation ∪ initialPunctuation ∪ finalPunctuation ∪ otherQuote),
   (["scontinue", "sc"],
    .ofText "2c-2d 3a-3b 37e 55d 60c-60d 7f8 1802 1808 2013-2014 3001 fe10-fe11 fe13-fe14 fe31-fe32
      fe50-fe51 fe54-fe55 fe58 fe63 ff0c-ff0d ff1a-ff1b ff64")]

def ofName? (table : List (List String × CharSet)) (name : String) : Option CharSet :=
  (table.find? (·.1.contains name)).map (·.2)

end AttributeRelease.Unicode.Segment
