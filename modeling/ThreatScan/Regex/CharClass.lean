import ThreatScan.Text.Blank
import ThreatScan.Text.Case
import ThreatScan.Text.Word
/-!
Character classes of search patterns.

A class lists code points, spans and categories, may be negated, and may ignore case. When case is ignored, the lower case
of a character is tested: it belongs to the class if it is the lower case of a listed code point, or a letter alike to it.
-/
namespace ThreatScan.Regex

inductive Category where
  | digit | space | word
  deriving DecidableEq, Repr

/-- The character is in the category; with `ascii` only ASCII characters are. -/
def Category.has (ascii : Bool) : Category → Char → Bool
  | .digit, c => if ascii then decide ('0' ≤ c ∧ c ≤ '9') else Text.isDecimalDigit c
  | .space, c => if ascii then [0x20, 0x09, 0x0A, 0x0D, 0x0C, 0x0B].contains c.toNat else Text.isBlank c
  | .word, c => if ascii then Text.isAsciiAlphanumeric c || c == '_' else Text.isWordChar c

inductive ClassItem where
  | code (n : Nat)
  | span (lo hi : Nat)
  | category (kind : Category) (negated : Bool)
  /-- What is the lower case of a character of the span, or alike to it. -/
  | lowersOf (lo hi : Nat)
  /-- What lies in the span itself or in upper case. -/
  | eitherCase (lo hi : Nat)
  deriving DecidableEq, Repr

structure CharClass where
  items : List ClassItem
  negated : Bool
  ignoreCase : Bool
  ascii : Bool
  deriving DecidableEq, Repr

/-- The lower case of a code point; with `ascii` only of ASCII letters. -/
def lowerCode (ascii : Bool) (n : Nat) : Nat :=
  if ascii && decide (0x80 ≤ n) then n
  else
    match Text.lowerRows.shift? n with
    | some shift => ((n : Int) + shift).toNat
    | none => n

/-- The lower-case code points alike to a lower-case one, itself excluded. -/
def variantsOf (ascii : Bool) (n : Nat) : List Nat :=
  if ascii then [] else (Text.caseVariants.lookup n).getD []

/-- The code points whose lower case is `n`. -/
def unlower (ascii : Bool) (n : Nat) : List Nat :=
  let all := if lowerCode ascii n = n then n :: Text.lowerRows.preimages n else Text.lowerRows.preimages n
  if ascii then all.filter fun m => decide (m < 0x80) || m == n else all

/-- The first character of the upper case of a code point. -/
def upperCode (n : Nat) : Nat :=
  match Text.upperOf (Char.ofNat n) with
  | [] => n
  | c :: _ => c.toNat

def ClassItem.has (ascii : Bool) (n : Nat) : ClassItem → Bool
  | .code m => n == m
  | .span lo hi => decide (lo ≤ n ∧ n ≤ hi)
  | .category kind negated => kind.has ascii (Char.ofNat n) != negated
  | .lowersOf lo hi =>
    (decide (lo ≤ n ∧ n ≤ hi) && lowerCode ascii n == n) ||
      (n :: variantsOf ascii n).any fun v => (unlower ascii v).any fun m => decide (lo ≤ m ∧ m ≤ hi)
  | .eitherCase lo hi => decide (lo ≤ n ∧ n ≤ hi) || decide (lo ≤ upperCode n ∧ upperCode n ≤ hi)

def beyondBasic : Nat := 0x10000

def isCasedCode (ascii : Bool) (n : Nat) : Bool :=
  if ascii then decide (n < 0x80) && Text.hasCase (Char.ofNat n) else Text.spanHasCase n n

def isCasedSpan (ascii : Bool) (lo hi : Nat) : Bool :=
  if ascii then Text.spanHasCase lo (min hi 0x7F) else Text.spanHasCase lo hi

/-- When case is ignored, lower case has to be taken for the entry. An entry beyond the basic plane always counts as
having case. -/
def ClassItem.isCased (ascii : Bool) : ClassItem → Bool
  | .code n => decide (beyondBasic ≤ n) || isCasedCode ascii n
  | .span lo hi => decide (beyondBasic ≤ hi) || isCasedSpan ascii lo hi
  | _ => false

/-- Code points as entries; those that follow each other make a span. -/
def entriesOf : List Nat → List ClassItem
  | [] => []
  | n :: rest =>
    match entriesOf rest with
    | .span lo hi :: more => if lo = n + 1 then .span n hi :: more else .span n n :: .span lo hi :: more
    | more => .span n n :: more

/-- Spans of at most this length are lowered code point by code point. -/
def shortSpan : Nat := 256

/-- The lower case of a span in the basic plane, with all that is alike to it. -/
def lowersOfSpan (ascii : Bool) (lo hi : Nat) : List ClassItem :=
  if hi < lo + shortSpan then
    let lows := (List.range (hi + 1 - lo)).map fun i => lowerCode ascii (lo + i)
    entriesOf lows ++ entriesOf (lows.flatMap (variantsOf ascii))
  else [.lowersOf lo hi]

/-- The entries to test a lower-case character with. A code point beyond the basic plane stays as it is, so a capital
there matches nothing. -/
def ClassItem.lowered (ascii : Bool) : ClassItem → List ClassItem
  | .code n =>
    if n < beyondBasic then (lowerCode ascii n :: variantsOf ascii (lowerCode ascii n)).map .code else [.code n]
  | .span lo hi =>
    (if lo < beyondBasic then lowersOfSpan ascii lo (min hi (beyondBasic - 1)) else []) ++
      (if beyondBasic ≤ hi then [.eitherCase lo hi] else [])
  | item => [item]

def CharClass.has (s : CharClass) (c : Char) : Bool :=
  let n := if s.ignoreCase then lowerCode s.ascii c.toNat else c.toNat
  s.items.any (·.has s.ascii n) != s.negated

/-- A class of entries. Case is ignored if asked for and if an entry has case. -/
def CharClass.make (ignoreCase ascii negated : Bool) (items : List ClassItem) : CharClass :=
  if ignoreCase && items.any (ClassItem.isCased ascii) then
    { items := items.flatMap (ClassItem.lowered ascii), negated, ascii, ignoreCase := true }
  else { items, negated, ascii, ignoreCase := false }

/-- One character, or every other. When case is ignored, all characters alike to it count. -/
def CharClass.letter (ignoreCase ascii negated : Bool) (code : Nat) : CharClass :=
  if ignoreCase && isCasedCode ascii code then
    let low := lowerCode ascii code
    { items := (low :: variantsOf ascii low).map .code, negated, ascii, ignoreCase := true }
  else { items := [.code code], negated, ascii, ignoreCase := false }

def CharClass.noLineFeed : CharClass :=
  { items := [.code 0x0A], negated := true, ignoreCase := false, ascii := false }

def CharClass.any : CharClass := { items := [], negated := true, ignoreCase := false, ascii := false }

def CharClass.only (c : Char) : CharClass :=
  { items := [.code c.toNat], negated := false, ignoreCase := false, ascii := false }

end ThreatScan.Regex
