import SourceContract.Text.Property.Binary
import SourceContract.Text.Property.Script

/-!
# Where text is divided

How a character behaves at the boundaries of characters that belong together, of words
and of sentences.  Each list gives the names of a behaviour and the characters that
have it; characters in no list have no behaviour of their own.
-/

namespace SourceContract.Text.Property

/-! ## Shared by the three -/

def scriptNamed (name : String) : Composition := .table ((lookup? name scripts).getD "")

def regionalIndicator : Composition := .table "1F1E6-1F1FF"

def emojiModifier : Composition := .table "1F3FB-1F3FF"

def joiner : Composition := .table "200D"

/-- Marks that stand before the digits that they enclose. -/
def beforeDigits : Composition := prependedConcatenationMark \ .table "70F"

/-- Letters of scripts that need a dictionary to find their words. -/
def dictionaryLetters : Composition := .table
  "E01-E3A E40-E4E E81-E82 E84 E86-E8A E8C-EA3 EA5 EA7-EBD EC0-EC4 EC6 EC8-ECE EDC-EDF 1000-103F
    1050-108F 109A-109F 1780-17D3 17D7 17DC-17DD 1950-196D 1970-1974 1980-19AB 19B0-19C9 19DA
    19DE-19DF 1A20-1A5E 1A60-1A7C 1AA0-1AAD A9E0-A9EF A9FA-A9FE AA60-AAC2 AADB-AADF 11700-1171A
    1171D-1172B 1173A-1173B 1173F-11746"

/-! ## Characters that belong together -/

def clusterExtend : Composition := (graphemeExtend ∪ emojiModifier) \ joiner

def clusterPrepend : Composition :=
  prependedConcatenationMark ∪ .table "D4E 111C2-111C3 113D1 1193F 11941 11A3A 11A84-11A89 11D46
    11F02"

def clusterControl : Composition :=
  (.categories ["zl", "zp", "cc", "cf"] ∪
      .table "2065 FFF0-FFF8 E0000 E0002-E001F E0080-E00FF E01F0-E0FFF")
    \ (.table "A D 200C-200D" ∪ prependedConcatenationMark ∪ clusterExtend)

def spacingMark : Composition :=
  (.categories ["mc"] ∪ .table "E33 EB3") \ (clusterExtend ∪ .table
    "102B-102C 1038 1062-1064 1067-106D 1083 1087-108C 108F 109A-109C 1A61 1A63-1A64 AA7B AA7D
      11720-11721")

def openSyllables : CharSet :=
  ⟨(List.range 399).map fun n => (0xAC00 + 28 * n, 0xAC00 + 28 * n)⟩

def graphemeClusterBreaks : List (Named Composition) := [
  ⟨["cr"], .table "D"⟩,
  ⟨["lf"], .table "A"⟩,
  ⟨["cn", "control"], clusterControl⟩,
  ⟨["ex", "extend"], clusterExtend⟩,
  ⟨["zwj"], joiner⟩,
  ⟨["ri", "regionalindicator"], regionalIndicator⟩,
  ⟨["pp", "prepend"], clusterPrepend⟩,
  ⟨["sm", "spacingmark"], spacingMark⟩,
  ⟨["l"], .table "1100-115F A960-A97C"⟩,
  ⟨["v"], .table "1160-11A7 D7B0-D7C6 16D63 16D67-16D6A"⟩,
  ⟨["t"], .table "11A8-11FF D7CB-D7FB"⟩,
  ⟨["lv"], .ranges openSyllables⟩,
  ⟨["lvt"], .table "AC00-D7A3" \ .ranges openSyllables⟩]

/-! ## Words -/

def wordExtend : Composition := (graphemeExtend ∪ .categories ["mc"] ∪ emojiModifier) \ joiner

def katakana : Composition :=
  scriptNamed "katakana" ∪ .table "3031-3035 309B-309C 30A0 30FC FF70"

def hebrewLetter : Composition := .categories ["lo"] ∩ scriptNamed "hebrew"

def wordLetter : Composition :=
  (alphabetic ∪ .table
      "2C2-2C5 2D2-2D7 2DE-2DF 2E5-2EB 2ED 2EF-2FF 55A-55C 55E 58A 5F3 70F A708-A716 A720-A721
        A789-A78A AB5B")
    \ (ideographic ∪ katakana ∪ dictionaryLetters
      ∪ scriptNamed "hiragana" ∪ wordExtend ∪ hebrewLetter)

def wordBreaks : List (Named Composition) := [
  ⟨["cr"], .table "D"⟩,
  ⟨["lf"], .table "A"⟩,
  ⟨["nl", "newline"], .table "B-C 85 2028-2029"⟩,
  ⟨["extend"], wordExtend⟩,
  ⟨["zwj"], joiner⟩,
  ⟨["ri", "regionalindicator"], regionalIndicator⟩,
  ⟨["fo", "format"], .categories ["cf"] \ (.table "200B-200D" ∪ wordExtend ∪ clusterPrepend)⟩,
  ⟨["ka", "katakana"], katakana⟩,
  ⟨["hl", "hebrewletter"], hebrewLetter⟩,
  ⟨["le", "aletter"], wordLetter⟩,
  ⟨["sq", "singlequote"], .table "27"⟩,
  ⟨["dq", "doublequote"], .table "22"⟩,
  ⟨["mb", "midnumlet"], .table "2E 2018-2019 2024 FE52 FF07 FF0E"⟩,
  ⟨["ml", "midletter"], .table "3A B7 387 55F 5F4 2027 FE13 FE55 FF1A"⟩,
  ⟨["mn", "midnum"],
    .table "2C 3B 37E 589 60C-60D 66C 7F8 2044 FE10 FE14 FE50 FE54 FF0C FF1B"⟩,
  ⟨["nu", "numeric"], .categories ["nd"] ∪ .table "66B" ∪ beforeDigits⟩,
  ⟨["ex", "extendnumlet"], .categories ["pc"] ∪ .table "202F"⟩,
  ⟨["wsegspace"], .categories ["zs"] \ .table "A0 2007 202F"⟩]

/-! ## Sentences -/

def sentenceExtend : Composition := graphemeExtend ∪ .categories ["mc"] ∪ joiner

def sentenceLower : Composition := lowercase \ (graphemeExtend ∪ georgian)

def sentenceUpper : Composition := (uppercase ∪ titlecase) \ .table "1C90-1CBA 1CBD-1CBF"

def fullStops : Composition := .table "2E 2024 FE52 FF0E"

def sentenceEnds : Composition := sentenceTerminal \ fullStops

def sentenceBreaks : List (Named Composition) := [
  ⟨["cr"], .table "D"⟩,
  ⟨["lf"], .table "A"⟩,
  ⟨["se", "sep"], .table "85 2028-2029"⟩,
  ⟨["ex", "extend"], sentenceExtend⟩,
  ⟨["fo", "format"], .categories ["cf"] \ (.table "200C-200D" ∪ sentenceExtend ∪ beforeDigits)⟩,
  ⟨["sp"], .table "9 B-C 20 A0 1680 2000-200A 202F 205F 3000"⟩,
  ⟨["lo", "lower"], sentenceLower⟩,
  ⟨["up", "upper"], sentenceUpper⟩,
  ⟨["le", "oletter"],
    (alphabetic ∪ .table "5F3") \ (sentenceLower ∪ sentenceUpper ∪ sentenceExtend)⟩,
  ⟨["nu", "numeric"], .categories ["nd"] ∪ .table "66B-66C" ∪ beforeDigits⟩,
  ⟨["at", "aterm"], fullStops⟩,
  ⟨["st", "sterm"], sentenceEnds⟩,
  ⟨["sc", "scontinue"],
    .table "2C-2D 3A-3B 37E 55D 60C-60D 7F8 1802 1808 2013-2014 3001 FE10-FE11 FE13-FE14 FE31-FE32
      FE50-FE51 FE54-FE55 FE58 FE63 FF0C-FF0D FF1A-FF1B FF64"⟩,
  ⟨["cl", "close"],
    .categories ["ps", "pe", "pi", "pf"] ∪
      .table "22 27 275B-2760 2E00-2E01 2E06-2E08 2E0B 1F676-1F678"⟩]

end SourceContract.Text.Property
