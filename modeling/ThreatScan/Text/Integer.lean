import ThreatScan.Text.Blank
import ThreatScan.Text.Word
/-!
Integers written as texts: blanks around, a sign, and decimal digits of any script with single underscores between them.
-/
namespace ThreatScan.Text

/-- The longest run of digits that is read as a number. -/
def digitLimit : Nat := 4300

/-- The blanks of ASCII that may stand around a number. -/
def isAsciiBlank (c : Char) : Bool := c == ' ' || (decide ('\t' ≤ c) && decide (c ≤ '\r'))

/-- What may stand around a number: of ASCII the common blanks only, beyond it any blank. -/
def isMargin (c : Char) : Bool := if c.toNat < 128 then isAsciiBlank c else isBlank c

/-- The values of the digits; an underscore stands between two digits only. -/
def digitValues? : List Char → Option (List Nat)
  | [] => none
  | [c] => if isDecimalDigit c then some [digitValue c] else none
  | c :: '_' :: rest => if isDecimalDigit c then (digitValues? rest).map (digitValue c :: ·) else none
  | c :: rest => if isDecimalDigit c then (digitValues? rest).map (digitValue c :: ·) else none

def natOfDigits (digits : List Nat) : Nat := digits.foldl (fun n d => 10 * n + d) 0

/-- The natural number of a run of decimal digits, if they are not too many. -/
def number? (digits : List Char) : Option Nat :=
  if digitLimit < digits.length then none else some (natOfDigits (digits.map digitValue))

/-- The natural number that digits write, if they are not too many. -/
def digits? (s : List Char) : Option Nat :=
  (digitValues? s).bind fun ds => if digitLimit < ds.length then none else some (natOfDigits ds)

def integer? (s : String) : Option Int :=
  match dropRight isMargin (s.toList.dropWhile isMargin) with
  | '-' :: rest => (digits? rest).map fun n => -(n : Int)
  | '+' :: rest => (digits? rest).map Int.ofNat
  | rest => (digits? rest).map Int.ofNat

end ThreatScan.Text
