import ThreatScan.Archive.Inflate
import ThreatScan.Text.Basic
/-!
Tables of character names.

A table holds the names of characters in the order of their code points, from zero on, as entries. The entry of a name
starts with a small letter: `a` if no word is that of the name before it, `b` if the first one is, and so on. A star at the
end of an entry says that the words of the name before it follow, except for one in whose place the words of the entry are.

Four signs are entries too. `+` is the name before with the next letter or number at its end, `~` the name before as that of
the small letter, `!` says that the code point has no name, and after a line break the code points start again from zero. A
number after `+` or `!` says how often it is meant.

The text of a table is compressed. Its bytes are written in digits of base 85, five of them for four bytes, with line breaks
and spaces between the digits.
-/
namespace ThreatScan.Text

/-- The digits are the characters from the number sign on without the backslash. -/
def digitOf85 (c : Char) : Nat := if c < '\\' then c.toNat - '#'.toNat else c.toNat - '#'.toNat - 1

/-- The bytes that digits write, the lowest byte of four first. -/
def bytesOf85 (bytes : Archive.Bytes) : List Char → Archive.Bytes
  | a :: b :: c :: d :: e :: rest =>
    let n := [a, b, c, d, e].foldl (fun n digit => 85 * n + digitOf85 digit) 0
    bytesOf85 (bytes ++ #[n.toUInt8, (n / 256).toUInt8, (n / 65536).toUInt8, (n / 16777216).toUInt8]) rest
  | _ => bytes

def tableText (table : String) : List Char :=
  (Archive.inflate (bytesOf85 #[] (table.toList.filter (' ' < ·)))).out.toList.map fun byte => Char.ofNat byte.toNat

def startsEntry (c : Char) : Bool := c.isLower || c == '+' || c == '~' || c == '!' || c == '\n'

/-- The entries of a text: each goes from a character that starts one to the next. -/
def nameEntries (s : List Char) : List (List Char) :=
  (s.foldr (fun c (begun, entries) =>
    if startsEntry c then ([], (c :: begun) :: entries) else (c :: begun, entries)) ([], [])).2

/-- How often a sign is meant, given what follows it. -/
def countOf : List Char → Nat
  | [] => 1
  | digits => digits.foldl (fun n c => 10 * n + (c.toNat - '0'.toNat)) 0

def capitalWord : List Char := "CAPITAL".toList

def smallWord : List Char := "SMALL".toList

/-- The text, read from its end, with the next letter or number there. -/
def raised : List Char → List Char
  | [] => []
  | c :: rest => if c = '9' then '0' :: raised rest else Char.ofNat (c.toNat + 1) :: rest

/-- The words of a name, given the first character of its entry, the rest of it and the words of the name before. -/
def nameWords (before : List (List Char)) (start : Char) (text : List Char) : List (List Char) :=
  if start = '+' then
    before.dropLast ++ (before.drop (before.length - 1)).map fun w => (raised w.reverse).reverse
  else if start = '~' then before.map fun w => if w = capitalWord then smallWord else w
  else
    let kept := start.toNat - 'a'.toNat
    if text.getLast? = some '*' then before.take kept ++ cutAt ' ' text.dropLast ++ before.drop (kept + 1)
    else before.take kept ++ cutAt ' ' text

/-- A name that is raised several times, as so many entries. -/
def repeated : List Char → List (List Char)
  | '+' :: digits => List.replicate (countOf digits) ['+']
  | entry => [entry]

/-- The code point of a name, the names being those from `code` on. -/
def findName? (name : List (List Char)) (before : List (List Char)) (code : Nat) : List (List Char) → Option Nat
  | [] => none
  | [] :: rest => findName? name before code rest
  | ('\n' :: _) :: rest => findName? name [] 0 rest
  | ('!' :: digits) :: rest => findName? name before (code + countOf digits) rest
  | (start :: text) :: rest =>
    let words := nameWords before start text
    if words = name then some code else findName? name words (code + 1) rest

def findIn? (table : String) (name : List (List Char)) : Option Nat :=
  findName? name [] 0 ((nameEntries (tableText table)).flatMap repeated)

end ThreatScan.Text
