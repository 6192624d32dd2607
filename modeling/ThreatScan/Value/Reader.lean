import ThreatScan.Text.Half
import ThreatScan.Text.Integer
import ThreatScan.Value.Basic
/-!
Reading JSON documents into values.

A number with a point or an exponent is a floating point number, any other an integer, which has a limited number of
digits; there are words for the numbers that are not finite. A text holds no bare control characters. Of two fields of one
name the later value counts, in the place of the earlier. Lists and records are nested to a limited depth only. Every step
consumes a character, so the length of the document bounds the recursion.
-/
namespace ThreatScan.Value

def isJsonBlank (c : Char) : Bool := c == ' ' || c == '\n' || c == '\r' || c == '\t'

def skipJsonBlanks (s : List Char) : List Char := s.dropWhile isJsonBlank

def hexValue? (c : Char) : Option Nat :=
  if '0' ≤ c ∧ c ≤ '9' then some (c.toNat - '0'.toNat)
  else if 'a' ≤ c ∧ c ≤ 'f' then some (c.toNat - 'a'.toNat + 10)
  else if 'A' ≤ c ∧ c ≤ 'F' then some (c.toNat - 'A'.toNat + 10)
  else none

def readHex4? : List Char → Option (Nat × List Char)
  | a :: b :: c :: d :: rest => do
    let w ← hexValue? a
    let x ← hexValue? b
    let y ← hexValue? c
    let z ← hexValue? d
    some (((w * 16 + x) * 16 + y) * 16 + z, rest)
  | _ => none

/-- A code point named after a backslash and `u`; two halves of a pair name one code point, and a half alone is kept as
such. -/
def readCodePoint? (s : List Char) : Option (Char × List Char) := do
  let (n, rest) ← readHex4? s
  if 0xD800 ≤ n ∧ n < 0xDC00 then
    match rest with
    | '\\' :: 'u' :: more => do
      let (low, after) ← readHex4? more
      if 0xDC00 ≤ low ∧ low < 0xE000 then
        some (Char.ofNat (0x10000 + (n - 0xD800) * 0x400 + (low - 0xDC00)), after)
      else some (Text.charOfUnit n, rest)
    | _ => some (Text.charOfUnit n, rest)
  else some (Text.charOfUnit n, rest)

/-- The rest of a text after its opening quote; `acc` holds the characters read, reversed. There are no more steps than
characters in the first list, which is the rest itself. -/
def readText? : List Char → List Char → List Char → Option (String × List Char)
  | [], _, _ => none
  | _ :: steps, acc, s =>
    match s with
    | [] => none
    | '"' :: rest => some (String.ofList acc.reverse, rest)
    | '\\' :: 'n' :: rest => readText? steps ('\n' :: acc) rest
    | '\\' :: 't' :: rest => readText? steps ('\t' :: acc) rest
    | '\\' :: 'r' :: rest => readText? steps ('\r' :: acc) rest
    | '\\' :: 'b' :: rest => readText? steps (Char.ofNat 0x08 :: acc) rest
    | '\\' :: 'f' :: rest => readText? steps (Char.ofNat 0x0C :: acc) rest
    | '\\' :: 'u' :: rest =>
      match readCodePoint? rest with
      | some (c, rest) => readText? steps (c :: acc) rest
      | none => none
    | '\\' :: c :: rest =>
      if c = '"' ∨ c = '\\' ∨ c = '/' then readText? steps (c :: acc) rest else none
    | c :: rest => if c.toNat < 0x20 then none else readText? steps (c :: acc) rest

def digitsValue (ds : List Char) : Nat := ds.foldl (fun n c => n * 10 + (c.toNat - '0'.toNat)) 0

def readExponent? (s : List Char) : Option (Int × List Char) :=
  let (neg, s) := match s with
    | '-' :: rest => (true, rest)
    | '+' :: rest => (false, rest)
    | s => (false, s)
  let ds := s.takeWhile Char.isDigit
  if ds.isEmpty then none
  else
    let e : Int := (digitsValue ds : Nat)
    some (if neg then -e else e, s.dropWhile Char.isDigit)

/-- The digits before the point: a zero that leads stands alone. -/
def wholeDigits : List Char → List Char
  | '0' :: _ => ['0']
  | s => s.takeWhile Char.isDigit

/-- The digits after a point, and what follows them; a point without digits is not read. -/
def readPlaces (s : List Char) : List Char × List Char :=
  match s with
  | '.' :: more =>
    let ds := more.takeWhile Char.isDigit
    if ds.isEmpty then ([], s) else (ds, more.dropWhile Char.isDigit)
  | s => ([], s)

def readNumber? (s : List Char) : Option (Value × List Char) :=
  let (neg, s) := match s with
    | '-' :: rest => (true, rest)
    | s => (false, s)
  let whole := wholeDigits s
  if whole.isEmpty then none
  else
    let (places, rest) := readPlaces (s.drop whole.length)
    let point := !places.isEmpty
    let power := match rest with
      | 'e' :: more => readExponent? more
      | 'E' :: more => readExponent? more
      | _ => none
    match power, point with
    | none, false =>
      let n : Int := (digitsValue whole : Nat)
      if Text.digitLimit < whole.length then none else some (.int (if neg then -n else n), rest)
    | none, true => some (.float (Binary64.ofDecimal neg (digitsValue (whole ++ places)) (-(places.length : Int))), rest)
    | some (e, rest), _ =>
      some (.float (Binary64.ofDecimal neg (digitsValue (whole ++ places)) (e - (places.length : Int))), rest)

/-- How deeply lists and records can be nested. -/
def nestingLimit : Nat := 990

mutual

/-- A value nested in lists and records so that `depth` more levels are allowed. -/
def readValue? : Nat → Nat → List Char → Option (Value × List Char)
  | 0, _, _ => none
  | fuel + 1, depth, s =>
    match skipJsonBlanks s, depth with
    | 'n' :: 'u' :: 'l' :: 'l' :: rest, _ => some (.null, rest)
    | 't' :: 'r' :: 'u' :: 'e' :: rest, _ => some (.bool true, rest)
    | 'f' :: 'a' :: 'l' :: 's' :: 'e' :: rest, _ => some (.bool false, rest)
    | 'N' :: 'a' :: 'N' :: rest, _ => some (.float .nan, rest)
    | 'I' :: 'n' :: 'f' :: 'i' :: 'n' :: 'i' :: 't' :: 'y' :: rest, _ => some (.float (.infinite false), rest)
    | '-' :: 'I' :: 'n' :: 'f' :: 'i' :: 'n' :: 'i' :: 't' :: 'y' :: rest, _ => some (.float (.infinite true), rest)
    | '"' :: rest, _ => (readText? rest [] rest).map fun (t, rest) => (.str t, rest)
    | '[' :: _, 0 => none
    | '[' :: rest, depth + 1 =>
      match skipJsonBlanks rest with
      | ']' :: rest => some (.list [], rest)
      | rest => (readItems? fuel depth [] rest).map fun (xs, rest) => (.list xs, rest)
    | '\x7b' :: _, 0 => none
    | '\x7b' :: rest, depth + 1 =>
      match skipJsonBlanks rest with
      | '\x7d' :: rest => some (.dict [], rest)
      | rest => (readFields? fuel depth [] rest).map fun (fs, rest) => (.dict fs, rest)
    | s, _ => readNumber? s

/-- The items of a list up to its closing bracket; `acc` holds those read, reversed. -/
def readItems? : Nat → Nat → List Value → List Char → Option (List Value × List Char)
  | 0, _, _, _ => none
  | fuel + 1, depth, acc, s =>
    match readValue? fuel depth s with
    | none => none
    | some (v, rest) =>
      match skipJsonBlanks rest with
      | ',' :: rest => readItems? fuel depth (v :: acc) rest
      | ']' :: rest => some ((v :: acc).reverse, rest)
      | _ => none

/-- The fields of a record up to its closing brace. -/
def readFields? : Nat → Nat → List (String × Value) → List Char → Option (List (String × Value) × List Char)
  | 0, _, _, _ => none
  | fuel + 1, depth, acc, s =>
    match skipJsonBlanks s with
    | '"' :: s =>
      match readText? s [] s with
      | none => none
      | some (k, s) =>
        match skipJsonBlanks s with
        | ':' :: s =>
          match readValue? fuel depth s with
          | none => none
          | some (v, s) =>
            match skipJsonBlanks s with
            | ',' :: s => readFields? fuel depth (setField k v acc) s
            | '\x7d' :: s => some (setField k v acc, s)
            | _ => none
        | _ => none
    | _ => none

end

def read? (s : String) : Option Value :=
  match readValue? (s.toList.length + 1) nestingLimit s.toList with
  | some (v, rest) => if (skipJsonBlanks rest).isEmpty then some v else none
  | none => none

end ThreatScan.Value
