/-!
Halves of pairs in texts.

Code points beyond the basic plane can be written as pairs of code units, and a document may hold half of such a pair
alone. No character stands for it; in a text it is kept as the private-use character of the last plane in its place.
-/
namespace ThreatScan.Text

def isHalfUnit (n : Nat) : Bool := decide (0xD800 ≤ n ∧ n < 0xE000)

/-- The character that a unit is kept as: itself, if it is not half of a pair. -/
def charOfUnit (n : Nat) : Char := if isHalfUnit n then Char.ofNat (0x100000 + n) else Char.ofNat n

/-- The half of a pair that a character is kept for. -/
def halfOf? (c : Char) : Option Nat :=
  if 0x10D800 ≤ c.toNat ∧ c.toNat < 0x10E000 then some (c.toNat - 0x100000) else none

end ThreatScan.Text
