import SerialConsole.Text.Property
import SerialConsole.Text.Script

/-!
# Segmentation

Where a text may be cut into the characters that a reader sees, into words, and into sentences
depends on classes of characters. Each class is defined by its rule, from categories, properties
and scripts; tables list only what those do not tell. `graphemeBreaks`, `wordBreaks` and
`sentenceBreaks` give the classes under their names. Characters of no class stand for themselves.
-/

namespace SerialConsole.Text.Segmentation

open Category Property

/-- The classes of one kind of segment under their names, in lower case without blanks, hyphens
and underscores. -/
abbrev Classes := List (List String × (Unit → CharSet))

def these (codes : List Nat) : CharSet := .ofRanges (codes.map fun code => (code, code))

def script (name : String) : CharSet :=
  ((Script.known.find? fun s => s.names.contains name).map Script.members).getD .empty

/-! ## Characters that a reader sees -/

def controls : CharSet :=
  .diff (.unions [lineSeparator, paragraphSeparator, control, format,
    unassigned.inter defaultIgnorable])
  <| .unions [graphemeExtend, prependedConcatenationMark, these [0xA, 0xD, 0x200D]]

def extending : CharSet := graphemeExtend.union emojiModifier

def prepended : CharSet :=
  prependedConcatenationMark.union <| .read
  "D4E 111C2-111C3 113D1 1193F 11941 11A3A 11A84-11A89 11D46 11F02"

def spacing : CharSet :=
  (spacingMark.union (these [0xE33, 0xEB3])).diff extending |>.diff <| .read
  "102B-102C 1038 1062-1064 1067-106D 1083 1087-108C 108F 109A-109C 1A61 1A63-1A64 AA7B AA7D
  11720-11721"

def openSyllables : CharSet :=
  these ((List.range 399).map fun i => 0xAC00 + 28 * i)

def graphemeBreaks : Classes :=
  [(["cr"], fun _ => .single '\r'),
   (["lf"], fun _ => .single '\n'),
   (["cn", "control"], fun _ => controls),
   (["ex", "extend"], fun _ => extending),
   (["zwj"], fun _ => these [0x200D]),
   (["ri", "regionalindicator"], fun _ => regionalIndicator),
   (["pp", "prepend"], fun _ => prepended),
   (["sm", "spacingmark"], fun _ => spacing),
   (["l"], fun _ => .read "1100-115F A960-A97C"),
   (["v"], fun _ => .read "1160-11A7 D7B0-D7C6 16D63 16D67-16D6A"),
   (["t"], fun _ => .read "11A8-11FF D7CB-D7FB"),
   (["lv"], fun _ => openSyllables),
   (["lvt"], fun _ => (CharSet.range 0xAC00 0xD7A3).diff openSyllables)]

/-! ## Words -/

def attached : CharSet :=
  .diff (.unions [graphemeExtend, spacingMark, emojiModifier]) (these [0x200D])

def numeric : CharSet :=
  .unions [decimalNumber,
    prependedConcatenationMark.diff (these [0x70F]), these [0x66B, 0x66C, 0x19DA]]

def unspaced : CharSet := .read
  "E01-E3A E40-E4E E81-E82 E84 E86-E8A E8C-EA3 EA5 EA7-EBD EC0-EC4 EC6 EC8-ECE EDC-EDF 1000-103F
  1050-108F 109A-109F 1780-17D3 17D7 17DC-17DD 1950-196D 1970-1974 1980-19AB 19B0-19C9 19DA
  19DE-19DF 1A20-1A5E 1A60-1A7C 1AA0-1AAD A9E0-A9EF A9FA-A9FE AA60-AAC2 AADB-AADF 11700-1171A
  1171D-1172B 1173A-1173B 1173F-11746"

def katakana : CharSet :=
  (script "kana").union <| .read "3031-3035 309B-309C 30A0 30FC FF70"

def hebrewLetters : CharSet := (script "hebr").inter otherLetter

def spacedLetters : CharSet :=
  .diff (alphabetic.union <| .read
    "2C2-2C5 2D2-2D7 2DE-2DF 2E5-2EB 2ED 2EF-2FF 55A-55C 55E 58A 5F3 70F A708-A716 A720-A721
    A789-A78A AB5B")
  <| .unions [ideographic, katakana, unspaced, script "hira", attached, hebrewLetters]

def wordBreaks : Classes :=
  [(["cr"], fun _ => .single '\r'),
   (["lf"], fun _ => .single '\n'),
   (["nl", "newline"], fun _ => .read "B-C 85 2028-2029"),
   (["extend"], fun _ => attached),
   (["zwj"], fun _ => these [0x200D]),
   (["ri", "regionalindicator"], fun _ => regionalIndicator),
   (["fo", "format"],
    fun _ => format.diff (.unions [attached, prependedConcatenationMark,
      .range 0x200B 0x200D])),
   (["ka", "katakana"], fun _ => katakana),
   (["hl", "hebrewletter"], fun _ => hebrewLetters),
   (["le", "aletter"], fun _ => spacedLetters),
   (["sq", "singlequote"], fun _ => .single '\''),
   (["dq", "doublequote"], fun _ => .single '"'),
   (["mb", "midnumlet"], fun _ => .read "2E 2018-2019 2024 FE52 FF07 FF0E"),
   (["ml", "midletter"], fun _ => .read "3A B7 387 55F 5F4 2027 FE13 FE55 FF1A"),
   (["mn", "midnum"],
    fun _ => .read
    "2C 3B 37E 589 60C-60D 66C 7F8 2044 FE10 FE14 FE50 FE54 FF0C FF1B"),
   (["nu", "numeric"], fun _ => numeric.diff (these [0x66C])),
   (["ex", "extendnumlet"], fun _ => connectorPunctuation.union (these [0x202F])),
   (["wsegspace"], fun _ => spaceSeparator.diff (these [0xA0, 0x2007, 0x202F]))]

/-! ## Sentences -/

def attachedOrJoining : CharSet := attached.diff emojiModifier |>.union (these [0x200D])

def lowerLetters : CharSet :=
  lowercase.diff (graphemeExtend.union <| .read "10D0-10FA 10FD-10FF")

def upperLetters : CharSet :=
  (titlecaseLetter.union uppercase).diff (.read "1C90-1CBA 1CBD-1CBF")

def fullStops : CharSet := these [0x2E, 0x2024, 0xFE52, 0xFF0E]

def terminators : CharSet := sentenceTerminal.diff fullStops

def sentenceBreaks : Classes :=
  [(["cr"], fun _ => .single '\r'),
   (["lf"], fun _ => .single '\n'),
   (["se", "sep"], fun _ => .read "85 2028-2029"),
   (["ex", "extend"], fun _ => attachedOrJoining),
   (["fo", "format"],
    fun _ => format.diff (.unions [attachedOrJoining, these [0x200C],
      prependedConcatenationMark.diff (these [0x70F])])),
   (["sp"], fun _ => whiteSpace.diff (these [0xA, 0xD, 0x85, 0x2028, 0x2029])),
   (["lo", "lower"], fun _ => lowerLetters),
   (["up", "upper"], fun _ => upperLetters),
   (["le", "oletter"],
    fun _ => (alphabetic.union (these [0x5F3])).diff
      (.unions [lowerLetters, upperLetters, attachedOrJoining])),
   (["nu", "numeric"], fun _ => numeric),
   (["at", "aterm"], fun _ => fullStops),
   (["sc", "scontinue"],
    fun _ => .read
    "2C-2D 3A-3B 37E 55D 60C-60D 7F8 1802 1808 2013-2014 3001 FE10-FE11 FE13-FE14 FE31-FE32
    FE50-FE51 FE54-FE55 FE58 FE63 FF0C-FF0D FF1A-FF1B FF64"),
   (["st", "sterm"], fun _ => terminators),
   (["cl", "close"],
    fun _ => .diff (.unions [openPunctuation, closePunctuation, initialPunctuation,
      finalPunctuation, .read "22 27 275B-2760 2E00-2E0D 1F676-1F678"])
    <| .union terminators fullStops)]

end SerialConsole.Text.Segmentation
