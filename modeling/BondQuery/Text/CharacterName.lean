import BondQuery.Text.Blank
import BondQuery.Text.CharRange
import BondQuery.Text.CharacterName.Names
import BondQuery.Text.Hex

/- Which names a character has. Most are listed, and are known in either case; those of Hangul
   syllables and of unified ideographs follow a rule, and are known in capitals only. -/
namespace BondQuery.Text

def isBeginning (item : List Char) : Bool :=
  item.getLast?.any fun c => c == '_' || c == '-'

def isListed (wanted beginning : List Char) : List (List Char) → Bool
  | [] => false
  | item :: rest =>
    if isBeginning item then isListed wanted item rest
    else beginning ++ item == wanted || isListed wanted beginning rest

def leadConsonants : List String := [
  "G", "GG", "N", "D", "DD", "R", "M", "B", "BB", "S", "SS", "", "J", "JJ", "C", "K", "T", "P", "H"]

def vowels : List String := [
  "A", "AE", "YA", "YAE", "EO", "E", "YEO", "YE", "O", "WA", "WAE", "OE", "YO", "U", "WEO", "WE",
  "WI", "YU", "EU", "YI", "I"]

def finalConsonants : List String := [
  "", "G", "GG", "GS", "N", "NJ", "NH", "D", "L", "LG", "LM", "LB", "LS", "LT", "LP", "LH", "M",
  "B", "BS", "S", "SS", "NG", "J", "C", "K", "T", "P", "H"]

def isHangulName (name : List Char) : Bool :=
  leadConsonants.any fun lead => vowels.any fun vowel => finalConsonants.any fun final =>
    name == ("HANGUL SYLLABLE " ++ lead ++ vowel ++ final).toList

def ideographRanges : List CharRange := [
  (0x3400, 0x4dbf), (0x4e00, 0x9fff), (0x20000, 0x2a6df), (0x2a700, 0x2b738), (0x2b740, 0x2b81d),
  (0x2b820, 0x2cea1), (0x2ceb0, 0x2ebe0), (0x30000, 0x3134a)]

def isIdeographName (name : List Char) : Bool :=
  let stem := "CJK UNIFIED IDEOGRAPH-".toList
  let digits := name.drop stem.length
  stem.isPrefixOf name && (digits.length = 4 || digits.length = 5) &&
    digits.all (fun c => c.isDigit || c.isUpper) &&
    (ofHexDigits? digits).any fun n => inRanges ideographRanges (Char.ofNat n)

def isCharacterName (name : List Char) : Bool :=
  let wanted := name.map fun c => if c == ' ' then '_' else c.toUpper
  isHangulName name || isIdeographName name ||
    !name.contains '_' && isListed wanted [] (splitBlanks characterNames.toList)

end BondQuery.Text
