import ThreatScan.Text.Quoted
/-!
Reading bytes as UTF-8 text.

Bytes are divided into characters and broken pieces. A piece is broken by a byte that cannot start a character, by a byte
that cannot continue one, or by the end of the bytes; its length is the number of bytes up to the point where it can no
longer be part of a character. Reading strictly fails at the first broken piece, reading leniently leaves them out. Line
ends are then made uniform.
-/
namespace ThreatScan.Text

inductive Breakage where
  | start | continuation | ending
  deriving DecidableEq, Repr

def Breakage.reason : Breakage → String
  | .start => "invalid start byte"
  | .continuation => "invalid continuation byte"
  | .ending => "unexpected end of data"

inductive BytePiece where
  | char (c : Char)
  | broken (position length : Nat) (first : UInt8) (why : Breakage)
  deriving DecidableEq, Repr

/-- A byte that continues a character. -/
def isTail (b : UInt8) : Bool := decide (0x80 ≤ b) && decide (b ≤ 0xBF)

/-- The second byte may follow the first in a character of three bytes. -/
def secondOfThree (a b : UInt8) : Bool :=
  isTail b && (if a = 0xE0 then decide (0xA0 ≤ b) else if a = 0xED then decide (b ≤ 0x9F) else true)

/-- The second byte may follow the first in a character of four bytes. -/
def secondOfFour (a b : UInt8) : Bool :=
  isTail b && (if a = 0xF0 then decide (0x90 ≤ b) else if a = 0xF4 then decide (b ≤ 0x8F) else true)

def joined (lead : Nat) (tails : List UInt8) : Char :=
  Char.ofNat (tails.foldl (fun n b => n * 64 + (b.toNat - 0x80)) lead)

/-- The pieces of a byte sequence that starts at a position. -/
def bytePieces (pos : Nat) : List UInt8 → List BytePiece
  | [] => []
  | a :: rest =>
    if a < 0x80 then .char (Char.ofNat a.toNat) :: bytePieces (pos + 1) rest
    else if a < 0xC2 then .broken pos 1 a .start :: bytePieces (pos + 1) rest
    else if a < 0xE0 then
      match rest with
      | [] => [.broken pos 1 a .ending]
      | b :: more =>
        if isTail b then .char (joined (a.toNat - 0xC0) [b]) :: bytePieces (pos + 2) more
        else .broken pos 1 a .continuation :: bytePieces (pos + 1) (b :: more)
    else if a < 0xF0 then
      match rest with
      | [] => [.broken pos 1 a .ending]
      | b :: more =>
        if secondOfThree a b then
          match more with
          | [] => [.broken pos 2 a .ending]
          | c :: more =>
            if isTail c then .char (joined (a.toNat - 0xE0) [b, c]) :: bytePieces (pos + 3) more
            else .broken pos 2 a .continuation :: bytePieces (pos + 2) (c :: more)
        else .broken pos 1 a .continuation :: bytePieces (pos + 1) (b :: more)
    else if a < 0xF5 then
      match rest with
      | [] => [.broken pos 1 a .ending]
      | b :: more =>
        if secondOfFour a b then
          match more with
          | [] => [.broken pos 2 a .ending]
          | c :: more =>
            if isTail c then
              match more with
              | [] => [.broken pos 3 a .ending]
              | d :: more =>
                if isTail d then .char (joined (a.toNat - 0xF0) [b, c, d]) :: bytePieces (pos + 4) more
                else .broken pos 3 a .continuation :: bytePieces (pos + 3) (d :: more)
            else .broken pos 2 a .continuation :: bytePieces (pos + 2) (c :: more)
        else .broken pos 1 a .continuation :: bytePieces (pos + 1) (b :: more)
    else .broken pos 1 a .start :: bytePieces (pos + 1) rest

/-- A broken piece met by a strict reading. -/
structure DecodeError where
  position : Nat
  length : Nat
  first : UInt8
  why : Breakage
  deriving DecidableEq, Repr

def DecodeError.message (e : DecodeError) : String :=
  (if e.length = 1 then
    "'utf-8' codec can't decode byte 0x" ++ String.ofList (hexDigits 2 e.first.toNat) ++ " in position " ++
      toString e.position
  else
    "'utf-8' codec can't decode bytes in position " ++ toString e.position ++ "-" ++
      toString (e.position + e.length - 1)) ++ ": " ++ e.why.reason

def strictly : List BytePiece → Except DecodeError (List Char)
  | [] => .ok []
  | .char c :: rest => (strictly rest).map (c :: ·)
  | .broken pos length first why :: _ => .error ⟨pos, length, first, why⟩

def leniently (pieces : List BytePiece) : List Char :=
  pieces.filterMap fun
    | .char c => some c
    | .broken _ _ _ _ => none

def replacement : Char := Char.ofNat 0xFFFD

def withMarks (pieces : List BytePiece) : List Char :=
  pieces.map fun
    | .char c => c
    | .broken _ _ _ _ => replacement

/-- Every carriage return, with or without a line feed after it, becomes one line feed. -/
def uniformLines : List Char → List Char
  | [] => []
  | '\r' :: '\n' :: rest => '\n' :: uniformLines rest
  | c :: rest => (if c = '\r' then '\n' else c) :: uniformLines rest

def byteChars (bs : List UInt8) : List Char := bs.map fun b => Char.ofNat b.toNat

end ThreatScan.Text
