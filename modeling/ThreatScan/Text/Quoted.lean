import ThreatScan.Text.Printable
/-!
Quoted texts: a text between quotes on one line, in which every character can be told from every other.

Single quotes are used unless the text holds a single quote and no double quote. The backslash and the quote in use
are escaped, a tab, line feed and carriage return have short names, and any other character that is not printable is
written by its code point.
-/
namespace ThreatScan.Text

/-- The last `width` hexadecimal digits of a number, in lower case. -/
def hexDigits : Nat → Nat → List Char
  | 0, _ => []
  | width + 1, n => hexDigits width (n / 16) ++ [Nat.digitChar (n % 16)]

/-- The name of a character by its code point: two, four or eight hexadecimal digits. -/
def codeName (c : Char) : List Char :=
  if c.toNat < 0x100 then '\\' :: 'x' :: hexDigits 2 c.toNat
  else if c.toNat < 0x10000 then '\\' :: 'u' :: hexDigits 4 c.toNat
  else '\\' :: 'U' :: hexDigits 8 c.toNat

/-- One character of a text quoted by `mark`. -/
def quoteChar (mark c : Char) : List Char :=
  if c = mark ∨ c = '\\' then ['\\', c]
  else if c = '\t' then ['\\', 't']
  else if c = '\n' then ['\\', 'n']
  else if c = '\r' then ['\\', 'r']
  else if isPrintable c then [c]
  else codeName c

/-- The quote of a text: single, unless the text has a single quote and no double quote. -/
def quoteMark (s : List Char) : Char :=
  if s.contains '\'' && !s.contains '"' then '"' else '\''

def quoteList (s : List Char) : List Char :=
  quoteMark s :: (s.flatMap (quoteChar (quoteMark s)) ++ [quoteMark s])

def quote (s : String) : String := String.ofList (quoteList s.toList)

end ThreatScan.Text
