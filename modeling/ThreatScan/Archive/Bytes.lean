/-!
Bytes of an archive, the numbers in them, which are written with the lowest byte first, and the checksum of bytes.

The checksum is the remainder of the bits, as a polynomial over two elements, by a polynomial of degree 32. Each byte enters
with its lowest bit first, and all bits are turned over before and after.
-/
namespace ThreatScan.Archive

abbrev Bytes := Array UInt8

/-- The number that starts at a place and takes so many bytes; bytes beyond the end count as zero. -/
def number (b : Bytes) (pos : Nat) : Nat → Nat
  | 0 => 0
  | width + 1 => ((b[pos]?).getD 0).toNat + 256 * number b (pos + 1) width

/-- As many bytes from a place on as there are, at most `length`. -/
def slice (b : Bytes) (pos length : Nat) : Bytes := b.extract pos (pos + length)

def startsAt (b : Bytes) (pos : Nat) (mark : List UInt8) : Bool := (slice b pos mark.length).toList == mark

/-- The polynomial, without its leading term and with its highest coefficient in the lowest bit. -/
def divisor : UInt32 := 0xEDB88320

/-- So many steps of the division. -/
def divide : Nat → UInt32 → UInt32
  | 0, r => r
  | count + 1, r => divide count (if r &&& 1 = 1 then (r >>> 1) ^^^ divisor else r >>> 1)

def checksum (b : Bytes) : Nat :=
  ((b.foldl (fun r byte => divide 8 (r ^^^ byte.toUInt32)) 0xFFFFFFFF) ^^^ 0xFFFFFFFF).toNat

end ThreatScan.Archive
