/-!
Texts as lists of characters: searching, cutting, replacing and joining.

Every function recurses on the list itself, so that it can be unfolded one character at a time.
The functions on `String` are thin: they open the text, work on the list and close it again.
-/
namespace ThreatScan.Text

def hasInfix (needle : List Char) : List Char → Bool
  | [] => needle.isEmpty
  | c :: rest => needle.isPrefixOf (c :: rest) || hasInfix needle rest

/-- Replaces every non-overlapping occurrence of a non-empty `old`, from left to right. `skip` counts the
characters of the last occurrence that are still to be dropped. -/
def replaceFrom (old new : List Char) : Nat → List Char → List Char
  | _, [] => []
  | skip + 1, _ :: rest => replaceFrom old new skip rest
  | 0, c :: rest =>
    if old.isPrefixOf (c :: rest) then new ++ replaceFrom old new (old.length - 1) rest
    else c :: replaceFrom old new 0 rest

def consHead (c : Char) : List (List Char) → List (List Char)
  | [] => [[c]]
  | piece :: pieces => (c :: piece) :: pieces

/-- The pieces between the non-overlapping occurrences of a non-empty separator. -/
def cutFrom (sep : List Char) : Nat → List Char → List (List Char)
  | _, [] => [[]]
  | skip + 1, _ :: rest => cutFrom sep skip rest
  | 0, c :: rest =>
    if sep.isPrefixOf (c :: rest) then [] :: cutFrom sep (sep.length - 1) rest
    else consHead c (cutFrom sep 0 rest)

/-- The pieces between the occurrences of one character. -/
def cutAt (sep : Char) : List Char → List (List Char)
  | [] => [[]]
  | c :: rest => if c = sep then [] :: cutAt sep rest else consHead c (cutAt sep rest)

/-- The lists with one separator between neighbours. -/
def joinWith (sep : List Char) : List (List Char) → List Char
  | [] => []
  | [piece] => piece
  | piece :: pieces => piece ++ sep ++ joinWith sep pieces

/-- The text before the first occurrence of `needle`, and the text after it. -/
def breakAt? (needle : List Char) : List Char → Option (List Char × List Char)
  | [] => if needle.isEmpty then some ([], []) else none
  | c :: rest =>
    if needle.isPrefixOf (c :: rest) then some ([], (c :: rest).drop needle.length)
    else (breakAt? needle rest).map fun p => (c :: p.1, p.2)

/-- The longest suffix free of the characters in `drop`, read from the right. -/
def dropRight (drop : Char → Bool) (s : List Char) : List Char :=
  (s.reverse.dropWhile drop).reverse

def contains (s needle : String) : Bool := hasInfix needle.toList s.toList

def startsWith (s start : String) : Bool := start.toList.isPrefixOf s.toList

def endsWith (s ending : String) : Bool := ending.toList.isSuffixOf s.toList

def replace (s old new : String) : String :=
  String.ofList (replaceFrom old.toList new.toList 0 s.toList)

/-- The pieces between occurrences of a non-empty separator; an empty text is one empty piece. -/
def cut (s sep : String) : List String := (cutFrom sep.toList 0 s.toList).map String.ofList

/-- The pieces between line feeds; a text that ends in one has an empty last piece. -/
def lines (s : String) : List String := (cutAt '\n' s.toList).map String.ofList

/-- Pieces with the line feeds that ended them; an empty last piece is no line. -/
def withEnds : List (List Char) → List (List Char)
  | [] => []
  | [last] => if last.isEmpty then [] else [last]
  | piece :: rest => (piece ++ ['\n']) :: withEnds rest

def endedLines (s : String) : List String := (withEnds (cutAt '\n' s.toList)).map String.ofList

def join (sep : String) (pieces : List String) : String :=
  String.ofList (joinWith sep.toList (pieces.map String.toList))

def count (c : Char) (s : String) : Nat := s.toList.count c

def padded (width n : Nat) : String :=
  let digits := Nat.toDigits 10 n
  String.ofList (List.replicate (width - digits.length) '0' ++ digits)

theorem cutAt_ne_nil (sep : Char) (s : List Char) : cutAt sep s ≠ [] := by
  induction s with
  | nil => simp [cutAt]
  | cons c rest ih =>
    by_cases h : c = sep
    · simp [cutAt, h]
    · cases hr : cutAt sep rest with
      | nil => exact absurd hr ih
      | cons piece pieces => simp [cutAt, h, hr, consHead]

/-- Cutting loses nothing: the pieces joined again are the text. -/
theorem joinWith_cutAt (sep : Char) (s : List Char) : joinWith [sep] (cutAt sep s) = s := by
  induction s with
  | nil => simp [cutAt, joinWith]
  | cons c rest ih =>
    cases hr : cutAt sep rest with
    | nil => exact absurd hr (cutAt_ne_nil sep rest)
    | cons piece pieces =>
      rw [hr] at ih
      by_cases h : c = sep
      · simp [cutAt, h, hr, joinWith, ih]
      · cases pieces with
        | nil => simpa [cutAt, h, hr, consHead, joinWith] using ih
        | cons p ps => simpa [cutAt, h, hr, consHead, joinWith] using ih

end ThreatScan.Text
