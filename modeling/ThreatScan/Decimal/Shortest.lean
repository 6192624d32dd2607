import ThreatScan.Decimal.Binary64
import ThreatScan.Text.Basic
/-!
Decimal texts of binary numbers.

The shortest text has the fewest digits that read back as the number, and of those the nearest to it, of two equally near
ones the even one. It is positional from `10 ^ -4` up to `10 ^ 16` and has an exponent of at least two digits outside. A
text with fixed places is the exact value rounded, a half to the even neighbour.
-/
namespace ThreatScan.Binary64

/-- The power of ten of the leading digit of `n / d`; the value is at least `10 ^ -330`. -/
def leadingPower (n d : Nat) : Int :=
  ((Nat.toDigits 10 (n * Nat.pow 10 330 / d)).length : Int) - 331

def gridPoint (t : Nat) (p : Int) : Nat × Nat :=
  if 0 ≤ p then (t * Nat.pow 10 p.toNat, 1) else (t, Nat.pow 10 (-p).toNat)

/-- How many whole units of `10 ^ p` are in `n / d`. -/
def gridFloor (n d : Nat) (p : Int) : Nat :=
  if 0 ≤ p then n / (d * Nat.pow 10 p.toNat) else n * Nat.pow 10 (-p).toNat / d

/-- The upper of two neighbouring grid points is the nearer one; of two equally near ones the even one is taken. -/
def upperNearer (n d t : Nat) (p : Int) : Bool :=
  let (a, b) := gridPoint (2 * t + 1) p
  decide (a * d < 2 * n * b) || (a * d == 2 * n * b && t % 2 == 1)

/-- A grid point of `digits` digits that reads back as the number, the nearer if both neighbours do. -/
def atDigits? (m : Nat) (e : Int) (digits : Nat) : Option (Nat × Int) :=
  let (n, d) := ratio m e
  let p := leadingPower n d - (digits : Int) + 1
  let t := gridFloor n d p
  let reads := fun k : Nat => let (a, b) := gridPoint k p; ofRatio false a b == .finite false m e
  match reads t, reads (t + 1) with
  | true, true => some (if upperNearer n d t p then t + 1 else t, p)
  | true, false => some (t, p)
  | false, true => some (t + 1, p)
  | false, false => none

/-- The first digit count, among those given, at which the number reads back. -/
def shortestAmong (m : Nat) (e : Int) : List Nat → Nat × Int
  | [] => (0, 0)
  | k :: rest => (atDigits? m e k).getD (shortestAmong m e rest)

/-- Trailing zeros moved from the digits into the power. -/
def dropZeros : List Char → Int → List Char × Int
  | [], p => ([], p)
  | '0' :: rest, p => dropZeros rest (p + 1)
  | ds, p => (ds, p)

/-- The shortest digits and the power of ten of the last one. -/
def shortestDigits (m : Nat) (e : Int) : List Char × Int :=
  let shortest := shortestAmong m e (List.range' 1 17)
  let trimmed := dropZeros (Nat.toDigits 10 shortest.1).reverse shortest.2
  (trimmed.1.reverse, trimmed.2)

/-- Digits with the last at `10 ^ p`, written with a point and at least one place. -/
def positional (ds : List Char) (p : Int) : List Char :=
  if 0 ≤ p then ds ++ List.replicate p.toNat '0' ++ ['.', '0']
  else
    let places := (-p).toNat
    if places < ds.length then
      ds.take (ds.length - places) ++ '.' :: ds.drop (ds.length - places)
    else '0' :: '.' :: (List.replicate (places - ds.length) '0' ++ ds)

/-- Digits with an exponent: one digit, a point if more follow, and a signed exponent of two digits or more. -/
def scientific (ds : List Char) (p : Int) : List Char :=
  let lead := p + (ds.length : Int) - 1
  let digits := match ds with
    | [] => ['0']
    | [c] => [c]
    | c :: rest => c :: '.' :: rest
  digits ++ 'e' :: (if lead < 0 then '-' else '+') :: (Text.padded 2 lead.natAbs).toList

/-- The shortest text that reads back as the number. -/
def text : Binary64 → String
  | .nan => "nan"
  | .infinite neg => if neg then "-inf" else "inf"
  | .finite neg m e =>
    let body :=
      if m = 0 then ['0', '.', '0']
      else
        let digits := shortestDigits m e
        let lead := digits.2 + (digits.1.length : Int) - 1
        if -4 ≤ lead ∧ lead < 16 then positional digits.1 digits.2 else scientific digits.1 digits.2
    String.ofList (if neg then '-' :: body else body)

def fixedText (places : Nat) : Binary64 → String
  | .nan => "nan"
  | .infinite neg => if neg then "-inf" else "inf"
  | .finite neg m e =>
    let (n, d) := ratio m e
    let t := roundedQuotient (n * Nat.pow 10 places) d
    let whole := Nat.toDigits 10 (t / Nat.pow 10 places)
    let body := if places = 0 then whole else whole ++ '.' :: (Text.padded places (t % Nat.pow 10 places)).toList
    String.ofList (if neg then '-' :: body else body)

end ThreatScan.Binary64
