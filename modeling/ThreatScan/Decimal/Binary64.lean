/-!
Binary floating point numbers of 64 bits, as exact dyadic fractions.

A finite number is `mantissa * 2 ^ exponent` with a mantissa below `2 ^ 53`; unless the exponent is the least one the
mantissa is at least `2 ^ 52`, so each value has one form. A fraction of natural numbers is rounded to the nearest such
number, and a tie goes to the even mantissa.
-/
namespace ThreatScan

inductive Binary64 where
  | finite (negative : Bool) (mantissa : Nat) (exponent : Int)
  | infinite (negative : Bool)
  | nan
  deriving DecidableEq, Repr

namespace Binary64

/-- The quotient rounded to the nearest natural number, a half to the even neighbour. -/
def roundedQuotient (n d : Nat) : Nat :=
  let q := n / d
  let r := n % d
  if 2 * r < d then q
  else if d < 2 * r then q + 1
  else if q % 2 = 0 then q
  else q + 1

/-- `n / d` in units of `2 ^ e`, as a fraction of natural numbers. -/
def scaled (n d : Nat) (e : Int) : Nat × Nat :=
  if 0 ≤ e then (n, d * Nat.pow 2 e.toNat) else (n * Nat.pow 2 (-e).toNat, d)

/-- The exponent at which the quotient has 53 binary digits, or the least exponent. -/
def exponentFor (n d : Nat) : Int :=
  let guess : Int := (Nat.log2 n : Int) - (Nat.log2 d : Int) - 52
  let (a, b) := scaled n d guess
  let e := if a / b < Nat.pow 2 52 then guess - 1 else guess
  max e (-1074)

/-- The number nearest to `n / d`. -/
def ofRatio (negative : Bool) (n d : Nat) : Binary64 :=
  if n = 0 ∨ d = 0 then .finite negative 0 (-1074)
  else
    let e := exponentFor n d
    let (a, b) := scaled n d e
    let m := roundedQuotient a b
    let (m, e) := if m = Nat.pow 2 53 then (Nat.pow 2 52, e + 1) else (m, e)
    if 971 < e then .infinite negative else .finite negative m e

/-- The number nearest to `digits * 10 ^ power`. Far beyond the range of these numbers it is infinite or zero. -/
def ofDecimal (negative : Bool) (digits : Nat) (power : Int) : Binary64 :=
  if digits = 0 ∨ (Nat.log2 digits : Int) + 3 * power < -1100 then .finite negative 0 (-1074)
  else if 400 < power then .infinite negative
  else if 0 ≤ power then ofRatio negative (digits * Nat.pow 10 power.toNat) 1
  else ofRatio negative digits (Nat.pow 10 (-power).toNat)

def ofInt (n : Int) : Binary64 := ofRatio (decide (n < 0)) n.natAbs 1

/-- The magnitude as a fraction of natural numbers. -/
def ratio (mantissa : Nat) (exponent : Int) : Nat × Nat :=
  if 0 ≤ exponent then (mantissa * Nat.pow 2 exponent.toNat, 1) else (mantissa, Nat.pow 2 (-exponent).toNat)

def isZero : Binary64 → Bool
  | .finite _ m _ => m == 0
  | _ => false

def truncate? : Binary64 → Option Int
  | .finite neg m e =>
    let (n, d) := ratio m e
    let q : Int := (n / d : Nat)
    some (if neg then -q else q)
  | _ => none

/-- Order of a number against an integer; what is not a number has none. -/
def compareInt? (x : Binary64) (k : Int) : Option Ordering :=
  match x with
  | .nan => none
  | .infinite neg => some (if neg then .lt else .gt)
  | .finite neg m e =>
    let (n, d) := ratio m e
    some (compare (if neg then -(n : Int) else (n : Int)) (k * (d : Int)))

/-- Order of two numbers; the two zeros are equal, and what is not a number has none. -/
def compare? (x y : Binary64) : Option Ordering :=
  match x, y with
  | .nan, _ => none
  | _, .nan => none
  | .infinite a, .infinite b => some (compare (if a then (0 : Nat) else 1) (if b then (0 : Nat) else 1))
  | .infinite a, .finite .. => some (if a then .lt else .gt)
  | .finite .., .infinite b => some (if b then .gt else .lt)
  | .finite na ma ea, .finite nb mb eb =>
    let (p, q) := ratio ma ea
    let (r, s) := ratio mb eb
    some (compare ((if na then -(p : Int) else (p : Int)) * (s : Int))
      ((if nb then -(r : Int) else (r : Int)) * (q : Int)))

def ofSignedRatio (n : Int) (d : Nat) : Binary64 := ofRatio (decide (n < 0)) n.natAbs d

def signedRatio (negative : Bool) (mantissa : Nat) (exponent : Int) : Int × Nat :=
  let (n, d) := ratio mantissa exponent
  (if negative then -(n : Int) else (n : Int), d)

/-- The sum, rounded; an infinite number absorbs the other one. -/
def plus (x y : Binary64) : Binary64 :=
  match x, y with
  | .finite na ma ea, .finite nb mb eb =>
    let (p, q) := signedRatio na ma ea
    let (r, s) := signedRatio nb mb eb
    ofSignedRatio (p * (s : Int) + r * (q : Int)) (q * s)
  | .nan, _ => .nan
  | _, .nan => .nan
  | .infinite a, .infinite b => if a = b then .infinite a else .nan
  | .infinite a, _ => .infinite a
  | _, .infinite b => .infinite b

def timesNat (x : Binary64) (n : Nat) : Binary64 :=
  match x with
  | .finite neg m e =>
    let (p, q) := signedRatio neg m e
    ofSignedRatio (p * (n : Int)) q
  | .infinite neg => if n = 0 then .nan else .infinite neg
  | .nan => .nan

end Binary64
end ThreatScan
