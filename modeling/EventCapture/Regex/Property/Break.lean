import EventCapture.Regex.Property.Binary
import EventCapture.Regex.Property.Script

/-! The parts that characters play where a text is divided into clusters, words and sentences. -/

set_option autoImplicit false

namespace EventCapture.Regex.Break

def attached : CharSet :=
  .unionAll [extending, ofCategory "Mc", Binary.emojiModifier]

/-- Marks that enclose the digits after them and count as digits. The mark of an abbreviation does
not, which encloses letters. -/
def digitMarks : CharSet := Binary.prependedMark.diff (.table ["70F"])

/-- Format characters other than joiners, those that stay with the one before them, and those that
count as digits. -/
def format : CharSet :=
  (ofCategory "Cf").diff (.unionAll [joiners, extending, digitMarks])

def leading : CharSet := .table ["1100-115F A960-A97C"]

def vowel : CharSet := .table ["1160-11A7 D7B0-D7C6 16D63 16D67-16D6A"]

def trailing : CharSet := .table ["11A8-11FF D7CB-D7FB"]

def syllable : CharSet := .table ["AC00-D7A3"]

/-- Syllables without a trailing consonant: the first of every twenty-eight. -/
def openSyllable : CharSet :=
  .ofAscending ((List.range 399).map fun block => (0xAC00 + 28 * block, 0xAC00 + 28 * block))

def prepended : CharSet :=
  .table
  ["600-605 6DD 70F 890-891 8E2 D4E 110BD 110CD 111C2-111C3 113D1 1193F 11941 11A3A 11A84-11A89",
   "11D46 11F02"]

/-- Spacing marks that may begin a cluster, and two letters that may not. -/
def spacingMark : CharSet :=
  ((((ofCategory "Mc").diff extending).diff
    (.table ["102B-102C 1038 1062-1064 1067-106D 1083 1087-108C 108F 109A-109C 1A61 1A63-1A64",
      "AA7B AA7D 11720-11721"])).union (.table ["E33 EB3"]))

/-- Characters at which clusters end on either side. -/
def control : CharSet :=
  .unionAll [
    ((((ofCategories ["Zl", "Zp", "Cc", "Cf"]).diff joiners).diff (.table ["A D"])).diff
      Binary.prependedMark).diff extending,
    (ofCategory "Cn").inter Binary.ignorable]

def cluster? (name : String) : Option CharSet :=
  match name with
  | "cn" | "control" => some control
  | "cr" => some (.single '\r')
  | "ex" | "extend" => some (extending.union Binary.emojiModifier)
  | "l" => some leading
  | "lf" => some (.single '\n')
  | "lv" => some openSyllable
  | "lvt" => some (syllable.diff openSyllable)
  | "pp" | "prepend" => some prepended
  | "ri" | "regionalindicator" => some Binary.regionalIndicator
  | "sm" | "spacingmark" => some spacingMark
  | "t" => some trailing
  | "v" => some vowel
  | "zwj" => some (.table ["200D"])
  | _ => none

def katakana : CharSet :=
  (Script.belonging "Kana").union (.table ["3031-3035 309B-309C 30A0 30FC FF70"])

def hebrew : CharSet :=
  (Script.belonging "Hebr").inter (ofCategory "Lo")

def unspaced : CharSet :=
  .table
  ["E01-E3A E40-E46 E4D E81-E82 E84 E86-E8A E8C-EA3 EA5 EA7-EB9 EBB-EBD EC0-EC4 EC6 ECD EDC-EDF",
   "1000-1036 1038 103B-103F 1050-108F 109A-109D 1780-17B3 17B6-17C8 17D7 17DC 1950-196D 1970-1974",
   "1980-19AB 19B0-19C9 1A20-1A5E 1A61-1A74 1AA7 A9E0-A9EF A9FA-A9FE AA60-AA76 AA7A-AABE AAC0 AAC2",
   "AADB-AADD 11700-1171A 1171D-1172A 11740-11746"]

def letterSigns : CharSet :=
  .table
  ["2C2-2C5 2D2-2D7 2DE-2DF 2E5-2EB 2ED 2EF-2FF 55A-55C 55E 58A 5F3 70F A708-A716 A720-A721",
   "A789-A78A AB5B"]

def letter : CharSet :=
  (alphabetic.diff (.unionAll [Binary.ideographic, katakana, unspaced, Script.belonging "Hira",
    attached, hebrew])).union letterSigns

/-- Digits, with the sign that parts them in Arabic, another form of one, and their marks. -/
def numeric : CharSet :=
  .unionAll [digit, .table ["66B 19DA"], digitMarks]

def word? (name : String) : Option CharSet :=
  match name with
  | "cr" => some (.single '\r')
  | "dq" | "doublequote" => some (.table ["22"])
  | "ex" | "extendnumlet" => some ((ofCategory "Pc").union (.table ["202F"]))
  | "extend" => some (attached.diff (.table ["200D"]))
  | "fo" | "format" => some (format.diff (.table ["70F 200B"]))
  | "hl" | "hebrewletter" => some hebrew
  | "ka" | "katakana" => some katakana
  | "le" | "aletter" => some letter
  | "lf" => some (.single '\n')
  | "mb" | "midnumlet" => some (.table ["2E 2018-2019 2024 FE52 FF07 FF0E"])
  | "ml" | "midletter" => some (.table ["3A B7 387 55F 5F4 2027 FE13 FE55 FF1A"])
  | "mn" | "midnum" =>
    some (.table ["2C 3B 37E 589 60C-60D 66C 7F8 2044 FE50 FE54 FF0C FF1B"])
  | "nl" | "newline" => some (.table ["B-C 85 2028-2029"])
  | "nu" | "numeric" => some numeric
  | "ri" | "regionalindicator" => some Binary.regionalIndicator
  | "sq" | "singlequote" => some (.table ["27"])
  | "wsegspace" => some (.table ["20 1680 2000-2006 2008-200A 205F 3000"])
  | "zwj" => some (.table ["200D"])
  | _ => none

def lower : CharSet :=
  (Binary.lowercase.diff extending).diff (.table ["10D0-10FA 10FD-10FF"])

def upper : CharSet :=
  (Binary.uppercase.union Binary.titlecase).diff (.table ["1C90-1CBA 1CBD-1CBF"])

/-- Full stops, which may end a sentence. -/
def fullStop : CharSet := .table ["2E 2024 FE52 FF0E"]

def separator : CharSet := .table ["85 2028-2029"]

def sentence? (name : String) : Option CharSet :=
  match name with
  | "at" | "aterm" => some fullStop
  | "cl" | "close" =>
    some ((ofCategories ["Ps", "Pe", "Pi", "Pf"]).union
      (.table ["22 27 275B-2760 2E00-2E01 2E06-2E08 2E0B 1F676-1F678"]))
  | "cr" => some (.single '\r')
  | "ex" | "extend" => some (.unionAll [extending, ofCategory "Mc", .table ["200D"]])
  | "fo" | "format" => some format
  | "le" | "oletter" =>
    some ((alphabetic.union (.table ["5F3"])).diff
      (.unionAll [lower, upper, extending, ofCategory "Mc"]))
  | "lf" => some (.single '\n')
  | "lo" | "lower" => some lower
  | "nu" | "numeric" => some (numeric.union (.table ["66C"]))
  | "sc" | "scontinue" =>
    some (.table ["2C-2D 3A-3B 37E 55D 60C-60D 7F8 1802 1808 2013-2014 3001 FE10-FE11 FE13-FE14",
      "FE31-FE32 FE50-FE51 FE54-FE55 FE58 FE63 FF0C-FF0D FF1A-FF1B FF64"])
  | "se" | "sep" => some separator
  | "sp" => some ((blank.diff separator).diff (.table ["A D"]))
  | "st" | "sterm" => some (Binary.sentenceTerminal.diff fullStop)
  | "up" | "upper" => some upper
  | _ => none

end EventCapture.Regex.Break
