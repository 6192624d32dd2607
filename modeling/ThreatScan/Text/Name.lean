import ThreatScan.Text.Name.Scripts
import ThreatScan.Text.Name.Symbols
import ThreatScan.Text.Name.Table
import ThreatScan.Text.Spans
/-!
Characters by their names, over all of Unicode 14.

Most names and second names are listed; small letters count as capitals in them. Some characters are named by a common
text and their code point in hexadecimal digits. A Hangul syllable is named by the sounds that it is made of. The names of
Hangul syllables and of unified ideographs are taken exactly as they are written.
-/
namespace ThreatScan.Text

def asciiCapital (c : Char) : Char :=
  if 'a' ≤ c ∧ c ≤ 'z' then Char.ofNat (c.toNat - 32) else c

def hexValue? (c : Char) : Option Nat :=
  if '0' ≤ c ∧ c ≤ '9' then some (c.toNat - '0'.toNat)
  else if 'A' ≤ c ∧ c ≤ 'F' then some (c.toNat - 'A'.toNat + 10)
  else none

/-- The code point that four or five hexadecimal digits write. -/
def codeOfHex? (digits : List Char) : Option Nat :=
  if digits.length = 4 ∨ digits.length = 5 then
    digits.foldlM (fun n c => (hexValue? c).map (16 * n + ·)) 0
  else none

def unifiedIdeographs : Spans :=
  [(0x3400, 0x4DBF), (0x4E00, 0x9FFF), (0x20000, 0x2A6DF), (0x2A700, 0x2B738), (0x2B740, 0x2B81D),
   (0x2B820, 0x2CEA1), (0x2CEB0, 0x2EBE0), (0x30000, 0x3134A)]

/-- Characters whose name is a common text and their code point, in four digits if these suffice. -/
def codeNamedRanges : List (String × Spans) :=
  [("CJK COMPATIBILITY IDEOGRAPH-", [(0xF900, 0xFA6D), (0xFA70, 0xFAD9), (0x2F800, 0x2FA1D)]),
   ("NUSHU CHARACTER-", [(0x1B170, 0x1B2FB)]),
   ("KHITAN SMALL SCRIPT CHARACTER-", [(0x18B00, 0x18CD5)])]

def after? (start : String) (s : List Char) : Option (List Char) :=
  if start.toList.isPrefixOf s then some (s.drop start.length) else none

def hangulFirst : List String :=
  ["G", "GG", "N", "D", "DD", "R", "M", "B", "BB", "S", "SS", "", "J", "JJ", "C", "K", "T", "P", "H"]

def hangulMiddle : List String :=
  ["A", "AE", "YA", "YAE", "EO", "E", "YEO", "YE", "O", "WA", "WAE", "OE", "YO", "U", "WEO", "WE", "WI", "YU", "EU",
   "YI", "I"]

def hangulLast : List String :=
  ["", "G", "GG", "GS", "N", "NJ", "NH", "D", "L", "LG", "LM", "LB", "LS", "LT", "LP", "LH", "M", "B", "BS", "S", "SS",
   "NG", "J", "C", "K", "T", "P", "H"]

/-- The longest of the sounds that the text starts with: its place among them, and the rest of the text. -/
def takeSound? (s : List Char) : Nat → List String → Option (Nat × List Char)
  | _, [] => none
  | i, sound :: rest =>
    match after? sound s, takeSound? s (i + 1) rest with
    | some left, some (j, shorter) => if left.length ≤ shorter.length then some (i, left) else some (j, shorter)
    | some left, none => some (i, left)
    | none, found => found

def hangulOf? (s : List Char) : Option Nat := do
  let (first, s) ← takeSound? s 0 hangulFirst
  let (middle, s) ← takeSound? s 0 hangulMiddle
  let (last, s) ← takeSound? s 0 hangulLast
  if s.isEmpty then some (0xAC00 + (first * 21 + middle) * 28 + last) else none

/-- The character that is named by a common text and its code point. -/
def codeNamed? (name : List Char) : Option Nat :=
  codeNamedRanges.findSome? fun (start, spans) =>
    (after? start name).bind fun digits =>
      (codeOfHex? digits).filter fun n => spans.has n && (digits.length == 5) == decide (0x10000 ≤ n)

def listedName? (name : List Char) : Option Nat :=
  [scriptNames, symbolNames].findSome? (findIn? · (cutAt ' ' name))

def characterNamed? (name : String) : Option Nat :=
  let s := name.toList
  match after? "HANGUL SYLLABLE " s, after? "CJK UNIFIED IDEOGRAPH-" s with
  | some sounds, _ => hangulOf? sounds
  | none, some digits => (codeOfHex? digits).filter unifiedIdeographs.has
  | none, none =>
    let capitals := s.map asciiCapital
    match codeNamed? capitals with
    | some n => some n
    | none => listedName? capitals

end ThreatScan.Text
