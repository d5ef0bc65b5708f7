import RpcProxy.Unicode.Property

-- Where a text may be divided: into characters as they are perceived, into words and into sentences.
namespace RpcProxy.Unicode.Segmentation

namespace Table

def notControl : CodeSet := .ofText
  "A D 600-605 6DD 70F 890-891 8E2 200C-200D 110BD 110CD E0020-E007F"

def otherPrepend : CodeSet := .ofText "D4E 111C2-111C3 1193F 11941 11A3A 11A84-11A89 11D46 11F02"

def notSpacingMark : CodeSet := .ofText
  "102B-102C 1038 1062-1064 1067-106D 1083 1087-108C 108F 109A-109C 1A61 1A63-1A64 AA7B AA7D
   11720-11721"

def leadingJamo : CodeSet := .ofText "1100-115F A960-A97C"

def vowelJamo : CodeSet := .ofText "1160-11A7 D7B0-D7C6"

def trailingJamo : CodeSet := .ofText "11A8-11FF D7CB-D7FB"

def hebrewLetter : CodeSet := .ofText
  "5D0-5EA 5EF-5F2 FB1D FB1F-FB28 FB2A-FB36 FB38-FB3C FB3E FB40-FB41 FB43-FB44 FB46-FB4F"

def katakana : CodeSet := .ofText
  "3031-3035 309B-309C 30A0-30FA 30FC-30FF 31F0-31FF 32D0-32FE 3300-3357 FF66-FF9D 1AFF0-1AFF3
   1AFF5-1AFFB 1AFFD-1AFFE 1B000 1B120-1B122 1B155 1B164-1B167"

def otherWordLetter : CodeSet := .ofText
  "2C2-2C5 2D2-2D7 2DE-2DF 2E5-2EB 2ED 2EF-2FF 55A-55C 55E 58A 5F3 A708-A716 A720-A721 A789-A78A
   AB5B"

-- Letters of scripts that are written without blanks between the words.
def notWordLetter : CodeSet := .ofText
  "E01-E30 E32-E33 E40-E46 E81-E82 E84 E86-E8A E8C-EA3 EA5 EA7-EB0 EB2-EB3 EBD EC0-EC4 EC6
   EDC-EDF 1000-102A 103F 1050-1055 105A-105D 1061 1065-1066 106E-1070 1075-1081 108E 1780-17B3
   17D7 17DC 1950-196D 1970-1974 1980-19AB 19B0-19C9 1A20-1A54 1AA7 3041-3096 309D-309F A9E0-A9E4
   A9E6-A9EF A9FA-A9FE AA60-AA76 AA7A AA7E-AAAF AAB1 AAB5-AAB6 AAB9-AABD AAC0 AAC2 AADB-AADD
   11700-1171A 11740-11746 1B001-1B11F 1B132 1B150-1B152"

def midLetter : CodeSet := .ofText "3A B7 387 55F 5F4 2027 FE13 FE55 FF1A"

def midNumber : CodeSet := .ofText
  "2C 3B 37E 589 60C-60D 66C 7F8 2044 FE10 FE14 FE50 FE54 FF0C FF1B"

def midNumberLetter : CodeSet := .ofText "2E 2018-2019 2024 FE52 FF07 FF0E"

def newline : CodeSet := .ofText "B-C 85 2028-2029"

def wordSpace : CodeSet := .ofText "20 1680 2000-2006 2008-200A 205F 3000"

def notWordFormat : CodeSet := .ofText "200B-200D E0020-E007F"

def ambiguousTerminal : CodeSet := .ofText "2E 2024 FE52 FF0E"

def notTerminal : CodeSet := .ofText "2E FE52 FF0E"

def continuation : CodeSet := .ofText
  "2C-2D 3A 55D 60C-60D 7F8 1802 1808 2013-2014 3001 FE10-FE11 FE13 FE31-FE32 FE50-FE51 FE55 FE58
   FE63 FF0C-FF0D FF1A FF64"

def otherClose : CodeSet := .ofText "22 27 275B-2760 2E00-2E01 2E06-2E08 2E0B 1F676-1F678"

def separator : CodeSet := .ofText "85 2028-2029"

def otherSpace : CodeSet := .ofText "9 B-C"

def notSentenceFormat : CodeSet := .ofText "200C-200D E0020-E007F"

def notLower : CodeSet := .ofText "10D0-10FA 10FD-10FF"

def notUpper : CodeSet := .ofText "1C90-1CBA 1CBD-1CBF"

end Table

open Category Property

-- A value of a property, by its names, with its characters and with the number of ranges that they are.
structure Value where
  names    : List String
  size     : Nat
  contains : Char → Bool

def extendsCluster (c : Char) : Bool :=
  graphemeExtend c || Property.Table.emojiModifier.contains c

def controlsCluster (c : Char) : Bool :=
  (anyOf [control, format, lineSeparator, paragraphSeparator] c ||
    unassigned.contains c && Property.Table.defaultIgnorableCodePoint.contains c) &&
    !Table.notControl.contains c

def prependsCluster (c : Char) : Bool :=
  Property.Table.prependedConcatenationMark.contains c || Table.otherPrepend.contains c

def spacesCluster (c : Char) : Bool :=
  spacingMark.contains c && !graphemeExtend c && !Table.notSpacingMark.contains c || c == '\u0e33' || c == '\u0eb3'

-- A syllable of two parts or of three. The syllables with the same first two parts stand together, and the one
-- without a third part is the first of them.
def isSyllable (third : Bool) (c : Char) : Bool :=
  0xAC00 ≤ c.toNat && c.toNat ≤ 0xD7A3 && ((c.toNat - 0xAC00) % 28 != 0) == third

def grapheme : List Value :=
  [⟨["cn", "control"], 19, controlsCluster⟩,
   ⟨["cr"], 1, (· == '\r')⟩,
   ⟨["ex", "extend"], 364, extendsCluster⟩,
   ⟨["l"], 2, Table.leadingJamo.contains⟩,
   ⟨["lf"], 1, (· == '\n')⟩,
   ⟨["lv"], 399, isSyllable false⟩,
   ⟨["lvt"], 399, isSyllable true⟩,
   ⟨["pp", "prepend"], 15, prependsCluster⟩,
   ⟨["ri", "regionalindicator"], 1, Property.Table.regionalIndicator.contains⟩,
   ⟨["sm", "spacingmark"], 165, spacesCluster⟩,
   ⟨["t"], 2, Table.trailingJamo.contains⟩,
   ⟨["v"], 2, Table.vowelJamo.contains⟩,
   ⟨["zwj"], 1, (· == '\u200d')⟩]

def extendsWord (c : Char) : Bool :=
  extendsCluster c || spacingMark.contains c

def isWordLetter (c : Char) : Bool :=
  alphabetic c && !Property.Table.ideographic.contains c && !Table.katakana.contains c &&
    !Table.hebrewLetter.contains c && !extendsWord c && !Table.notWordLetter.contains c ||
    Table.otherWordLetter.contains c

def word : List Value :=
  [⟨["cr"], 1, (· == '\r')⟩,
   ⟨["dq", "doublequote"], 1, (· == '"')⟩,
   ⟨["ex", "extendnumlet"], 7, fun c => connector.contains c || c == '\u202f'⟩,
   ⟨["extend"], 314, extendsWord⟩,
   ⟨["fo", "format"], 20, fun c => format.contains c && !Table.notWordFormat.contains c⟩,
   ⟨["hl", "hebrewletter"], 10, Table.hebrewLetter.contains⟩,
   ⟨["ka", "katakana"], 15, Table.katakana.contains⟩,
   ⟨["le", "aletter"], 578, isWordLetter⟩,
   ⟨["lf"], 1, (· == '\n')⟩,
   ⟨["mb", "midnumlet"], 6, Table.midNumberLetter.contains⟩,
   ⟨["ml", "midletter"], 9, Table.midLetter.contains⟩,
   ⟨["mn", "midnum"], 14, Table.midNumber.contains⟩,
   ⟨["nl", "newline"], 3, Table.newline.contains⟩,
   ⟨["nu", "numeric"], 65, fun c => decimalDigit.contains c || c == '\u066b'⟩,
   ⟨["ri", "regionalindicator"], 1, Property.Table.regionalIndicator.contains⟩,
   ⟨["sq", "singlequote"], 1, (· == '\x27')⟩,
   ⟨["wsegspace"], 6, Table.wordSpace.contains⟩,
   ⟨["zwj"], 1, (· == '\u200d')⟩]

def extendsSentence (c : Char) : Bool :=
  graphemeExtend c || spacingMark.contains c || c == '\u200d'

def isLower (c : Char) : Bool :=
  lowercase c && !graphemeExtend c && !Table.notLower.contains c

def isUpper (c : Char) : Bool :=
  (uppercase c || titleLetter.contains c) && !Table.notUpper.contains c

def isOtherLetter (c : Char) : Bool :=
  alphabetic c && !isLower c && !isUpper c && !extendsSentence c || c == '\u05f3'

def closesSentence (c : Char) : Bool :=
  anyOf [openPunctuation, closePunctuation, initialQuote, finalQuote] c || Table.otherClose.contains c

def sentence : List Value :=
  [⟨["at", "aterm"], 4, Table.ambiguousTerminal.contains⟩,
   ⟨["cl", "close"], 45, closesSentence⟩,
   ⟨["cr"], 1, (· == '\r')⟩,
   ⟨["ex", "extend"], 313, extendsSentence⟩,
   ⟨["fo", "format"], 21, fun c => format.contains c && !Table.notSentenceFormat.contains c⟩,
   ⟨["le", "oletter"], 543, isOtherLetter⟩,
   ⟨["lf"], 1, (· == '\n')⟩,
   ⟨["lo", "lower"], 669, isLower⟩,
   ⟨["nu", "numeric"], 65, fun c => decimalDigit.contains c || c == '\u066b' || c == '\u066c'⟩,
   ⟨["sc", "scontinue"], 19, Table.continuation.contains⟩,
   ⟨["se", "sep"], 2, Table.separator.contains⟩,
   ⟨["sp"], 9, fun c => space.contains c || Table.otherSpace.contains c⟩,
   ⟨["st", "sterm"], 77, fun c => Property.Table.sentenceTerminal.contains c && !Table.notTerminal.contains c⟩,
   ⟨["up", "upper"], 652, isUpper⟩]

def ofName? (values : List Value) (name : String) : Option Value :=
  values.find? (·.names.contains name)

end RpcProxy.Unicode.Segmentation
