import ThreatScan.Text.Basic
import ThreatScan.Text.Spans
/-!
White space: the blank characters of Unicode, trimming, words and line breaks.
-/
namespace ThreatScan.Text

/-- The code points of white space: the control separators, the space separators, and the line and paragraph
separators. -/
def blankSpans : Spans :=
  [(0x09, 0x0D), (0x1C, 0x20), (0x85, 0x85), (0xA0, 0xA0), (0x1680, 0x1680), (0x2000, 0x200A),
   (0x2028, 0x2029), (0x202F, 0x202F), (0x205F, 0x205F), (0x3000, 0x3000)]

def isBlank (c : Char) : Bool := blankSpans.has c.toNat

def trimList (s : List Char) : List Char := dropRight isBlank (s.dropWhile isBlank)

def trim (s : String) : String := String.ofList (trimList s.toList)

def allBlank (s : String) : Bool := s.toList.all isBlank

/-- The given characters removed from both ends. -/
def trimOf (drop : List Char) (s : List Char) : List Char :=
  dropRight (drop.contains ·) (s.dropWhile (drop.contains ·))

/-- The maximal blank-free pieces; `word` holds the piece being read, reversed. -/
def wordsFrom (word : List Char) : List Char → List (List Char)
  | [] => if word.isEmpty then [] else [word.reverse]
  | c :: rest =>
    if isBlank c then (if word.isEmpty then wordsFrom [] rest else word.reverse :: wordsFrom [] rest)
    else wordsFrom (c :: word) rest

def words (s : String) : List String := (wordsFrom [] s.toList).map String.ofList

/-- The characters that end a line of displayed text. A carriage return and the line feed after it end one line. -/
def isLineBreak (c : Char) : Bool :=
  [0x0A, 0x0B, 0x0C, 0x0D, 0x1C, 0x1D, 0x1E, 0x85, 0x2028, 0x2029].contains c.toNat

/-- The displayed lines; `line` holds the line being read, reversed. A text that ends in a break has no empty
last line. -/
def displayLinesFrom (line : List Char) : List Char → List (List Char)
  | [] => if line.isEmpty then [] else [line.reverse]
  | '\r' :: '\n' :: rest => line.reverse :: displayLinesFrom [] rest
  | c :: rest =>
    if isLineBreak c then line.reverse :: displayLinesFrom [] rest
    else displayLinesFrom (c :: line) rest

def displayLines (s : String) : List String := (displayLinesFrom [] s.toList).map String.ofList

theorem isBlank_of_isWhitespace {c : Char} (h : c.isWhitespace = true) : isBlank c = true := by
  simp only [Char.isWhitespace, Bool.or_eq_true, decide_eq_true_eq] at h
  rcases h with ((rfl | rfl) | rfl) | rfl <;> decide

end ThreatScan.Text
