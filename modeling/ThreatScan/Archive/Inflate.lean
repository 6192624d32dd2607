import ThreatScan.Archive.Bytes
/-!
Unpacking of compressed content.

The content is a sequence of blocks of bits. A block holds bytes as they are, or symbols: literal bytes and references to
bytes already unpacked, by length and distance. The symbols are written in prefix codes, which are fixed or described at the
start of the block. The bits may end too early; what was unpacked until then counts.
-/
namespace ThreatScan.Archive

inductive PackError where
  | blockKind | storedLength | tooManySymbols | lengthCode | repetition | noBlockEnd | symbolCode | distanceCode
  | badSymbol | badDistance | tooFar
  deriving DecidableEq, Repr

def PackError.message : PackError → String
  | .blockKind => "invalid block type"
  | .storedLength => "invalid stored block lengths"
  | .tooManySymbols => "too many length or distance symbols"
  | .lengthCode => "invalid code lengths set"
  | .repetition => "invalid bit length repeat"
  | .noBlockEnd => "invalid code -- missing end-of-block"
  | .symbolCode => "invalid literal/lengths set"
  | .distanceCode => "invalid distances set"
  | .badSymbol => "invalid literal/length code"
  | .badDistance => "invalid distance code"
  | .tooFar => "invalid distance too far back"

inductive Stop where
  | exhausted
  | broken (why : PackError)
  deriving DecidableEq, Repr

/-- A reading from a place in the bits: a value and the place after it. -/
abbrev BitReader (α : Type) := Nat → Except Stop (α × Nat)

/-- The next bit of the bytes, the lowest bit of a byte first. -/
def readBit (b : Bytes) : BitReader Nat := fun pos =>
  match b[pos / 8]? with
  | some byte => .ok (byte.toNat / Nat.pow 2 (pos % 8) % 2, pos + 1)
  | none => .error .exhausted

/-- A number of so many bits, the lowest first. -/
def readBits (b : Bytes) : Nat → BitReader Nat
  | 0, pos => .ok (0, pos)
  | count + 1, pos => do
    let (low, pos) ← readBit b pos
    let (high, pos) ← readBits b count pos
    return (low + 2 * high, pos)

/-! Prefix codes. -/

/-- A code: for each length how many symbols have codes of it, and the symbols in the order of their codes. -/
structure PrefixCode where
  counts : Array Nat
  symbols : Array Nat
  longest : Nat

namespace PrefixCode

def lengthLimit : Nat := 15

/-- The codes that stay free; none if there are too many symbols. -/
def free? (counts : Array Nat) : Option Nat :=
  (List.range lengthLimit).foldl (fun free i =>
    match free with
    | none => none
    | some n =>
      let count := (counts[i + 1]?).getD 0
      if 2 * n < count then none else some (2 * n - count)) (some 1)

/-- The code that gives the symbols codes of these lengths; a symbol of length zero has none. Unless all codes are used, it
can be a single one of one bit, if that is allowed, or none at all. -/
def ofLengths? (lengths : List Nat) (single : Bool) : Option PrefixCode :=
  let counts := (Array.range (lengthLimit + 1)).map fun n => lengths.count n
  let longest := lengths.foldl max 0
  let symbols := (List.range lengthLimit).flatMap fun i =>
    lengths.zipIdx.filterMap fun (n, symbol) => if n = i + 1 then some symbol else none
  match free? counts with
  | none => none
  | some free =>
    if free ≠ 0 ∧ longest ≠ 0 ∧ !(single && longest == 1) then none
    else some ⟨counts, symbols.toArray, longest⟩

/-- Goes on with a code of which `length` bits are read: `code` is its value, `first` the least code of that length and
`index` the number of symbols with shorter codes. No symbol if none has the code. -/
def readFrom (c : PrefixCode) (b : Bytes) (code first index length : Nat) : Nat → BitReader (Option Nat)
  | 0, pos => .ok (none, pos)
  | more + 1, pos => do
    let (bit, pos) ← readBit b pos
    let code := 2 * code + bit
    let count := (c.counts[length + 1]?).getD 0
    if code < first + count then return (c.symbols[index + (code - first)]?, pos)
    else c.readFrom b code (2 * (first + count)) (index + count) (length + 1) more pos

def read (c : PrefixCode) (b : Bytes) : BitReader (Option Nat) := c.readFrom b 0 0 0 0 (max 1 c.longest)

end PrefixCode

/-- The codes of a block: for literal bytes, lengths and the end of the block, and for distances. -/
structure BlockCodes where
  symbols : PrefixCode
  distances : PrefixCode

namespace BlockCodes

def fixedLengths : List Nat :=
  List.replicate 144 8 ++ List.replicate 112 9 ++ List.replicate 24 7 ++ List.replicate 8 8

def fixed? : Option BlockCodes := do
  let symbols ← PrefixCode.ofLengths? fixedLengths true
  let distances ← PrefixCode.ofLengths? (List.replicate 32 5) true
  return ⟨symbols, distances⟩

/-- The order in which the lengths of the code for lengths are written. -/
def lengthOrder : List Nat := [16, 17, 18, 0, 8, 7, 9, 6, 10, 5, 11, 4, 12, 3, 13, 2, 14, 1, 15]

def readThrees (b : Bytes) : Nat → BitReader (List Nat)
  | 0, pos => .ok ([], pos)
  | count + 1, pos => do
    let (n, pos) ← readBits b 3 pos
    let (ns, pos) ← readThrees b count pos
    return (n :: ns, pos)

/-- What a symbol of the code for lengths says: a length, and how many symbols in a row have it. Symbols above 15 repeat a
length, the first of them the one before. -/
def readRow (b : Bytes) (last : Option Nat) (symbol : Nat) : BitReader (Nat × Nat) := fun pos =>
  match symbol with
  | 16 => do
    let (n, pos) ← readBits b 2 pos
    match last with
    | none => .error (.broken .repetition)
    | some length => .ok ((length, n + 3), pos)
  | 17 => do
    let (n, pos) ← readBits b 3 pos
    return ((0, n + 3), pos)
  | 18 => do
    let (n, pos) ← readBits b 7 pos
    return ((0, n + 11), pos)
  | length => .ok ((length, 1), pos)

/-- The lengths of the codes of `total` symbols; `known` are those read, the last first. A row is not empty, so `total` also
bounds the number of rows. -/
def readLengths (b : Bytes) (c : PrefixCode) (total : Nat) : Nat → List Nat → BitReader (List Nat)
  | 0, known, pos => .ok (known.reverse, pos)
  | rows + 1, known, pos =>
    if total ≤ known.length then .ok (known.reverse, pos)
    else do
      let (symbol, pos) ← c.read b pos
      let ((length, count), pos) ← readRow b known.head? (symbol.getD 0) pos
      if total < known.length + count then .error (.broken .repetition)
      else readLengths b c total rows (List.replicate count length ++ known) pos

def blockEnd : Nat := 256

def read (b : Bytes) : BitReader BlockCodes := fun pos => do
  let (n, pos) ← readBits b 5 pos
  let (m, pos) ← readBits b 5 pos
  let (k, pos) ← readBits b 4 pos
  let symbolCount := n + 257
  let distanceCount := m + 1
  if 286 < symbolCount ∨ 30 < distanceCount then .error (.broken .tooManySymbols)
  else do
    let (threes, pos) ← readThrees b (k + 4) pos
    let written := lengthOrder.zip threes
    let lengths := (List.range 19).map fun symbol => (written.lookup symbol).getD 0
    match PrefixCode.ofLengths? lengths false with
    | none => .error (.broken .lengthCode)
    | some code => do
      let total := symbolCount + distanceCount
      let (lengths, pos) ← readLengths b code total total [] pos
      if lengths[blockEnd]?.getD 0 = 0 then .error (.broken .noBlockEnd)
      else
        match PrefixCode.ofLengths? (lengths.take symbolCount) true,
            PrefixCode.ofLengths? (lengths.drop symbolCount) true with
        | none, _ => .error (.broken .symbolCode)
        | _, none => .error (.broken .distanceCode)
        | some symbols, some distances => .ok (⟨symbols, distances⟩, pos)

end BlockCodes

/-! Blocks. -/

/-- For symbols above the end of the block: the least length and the number of bits that are added to it. -/
def lengthRows : Array (Nat × Nat) :=
  #[(3, 0), (4, 0), (5, 0), (6, 0), (7, 0), (8, 0), (9, 0), (10, 0), (11, 1), (13, 1), (15, 1), (17, 1), (19, 2), (23, 2),
    (27, 2), (31, 2), (35, 3), (43, 3), (51, 3), (59, 3), (67, 4), (83, 4), (99, 4), (115, 4), (131, 5), (163, 5), (195, 5),
    (227, 5), (258, 0)]

/-- For symbols of distances: the least distance and the number of bits that are added to it. -/
def distanceRows : Array (Nat × Nat) :=
  #[(1, 0), (2, 0), (3, 0), (4, 0), (5, 1), (7, 1), (9, 2), (13, 2), (17, 3), (25, 3), (33, 4), (49, 4), (65, 5), (97, 5),
    (129, 6), (193, 6), (257, 7), (385, 7), (513, 8), (769, 8), (1025, 9), (1537, 9), (2049, 10), (3073, 10), (4097, 11),
    (6145, 11), (8193, 12), (12289, 12), (16385, 13), (24577, 13)]

/-- A number that a symbol stands for, given by a row of a table and added bits. -/
def readRowed (b : Bytes) (rows : Array (Nat × Nat)) (symbol : Nat) (otherwise : PackError) : BitReader Nat := fun pos =>
  match rows[symbol]? with
  | none => .error (.broken otherwise)
  | some (least, bits) => do
    let (n, pos) ← readBits b bits pos
    return (least + n, pos)

inductive Piece where
  | literal (byte : UInt8)
  /-- Bytes again that were unpacked before. -/
  | reference (length distance : Nat)
  | stop

def readPiece (b : Bytes) (c : BlockCodes) : BitReader Piece := fun pos => do
  let (symbol, pos) ← c.symbols.read b pos
  match symbol with
  | none => .error (.broken .badSymbol)
  | some symbol =>
    if symbol < BlockCodes.blockEnd then return (.literal symbol.toUInt8, pos)
    else if symbol = BlockCodes.blockEnd then return (.stop, pos)
    else do
      let (length, pos) ← readRowed b lengthRows (symbol - 257) .badSymbol pos
      let (symbol, pos) ← c.distances.read b pos
      match symbol with
      | none => .error (.broken .badDistance)
      | some symbol => do
        let (distance, pos) ← readRowed b distanceRows symbol .badDistance pos
        return (.reference length distance, pos)

/-- Adds bytes again, `distance` bytes after they stood before. -/
def addAgain (distance : Nat) : Nat → Bytes → Bytes
  | 0, out => out
  | count + 1, out => addAgain distance count (out.push ((out[out.size - distance]?).getD 0))

/-- What was unpacked so far, and the place after it, or why no more can be. -/
structure Unpacked where
  out : Bytes
  place : Except Stop Nat

/-- Unpacks the pieces of a block. Each takes a bit at least. -/
def unpackPieces (b : Bytes) (c : BlockCodes) : Nat → Bytes → Nat → Unpacked
  | 0, out, _ => ⟨out, .error .exhausted⟩
  | bits + 1, out, pos =>
    match readPiece b c pos with
    | .error e => ⟨out, .error e⟩
    | .ok (.literal byte, pos) => unpackPieces b c bits (out.push byte) pos
    | .ok (.stop, pos) => ⟨out, .ok pos⟩
    | .ok (.reference length distance, pos) =>
      if out.size < distance then ⟨out, .error (.broken .tooFar)⟩
      else unpackPieces b c bits (addAgain distance length out) pos

/-- Unpacks a block of bytes as they are. Its length is written twice, the second time with all bits turned over. -/
def unpackStored (b : Bytes) (out : Bytes) (pos : Nat) : Unpacked :=
  let start := (pos + 7) / 8
  if b.size < start + 4 then ⟨out, .error .exhausted⟩
  else
    let length := number b start 2
    if number b (start + 2) 2 + length ≠ 0xFFFF then ⟨out, .error (.broken .storedLength)⟩
    else
      let bytes := slice b (start + 4) length
      ⟨out ++ bytes, if bytes.size < length then .error .exhausted else .ok (8 * (start + 4 + length))⟩

def unpackBlock (b : Bytes) (kind : Nat) (out : Bytes) (pos : Nat) : Unpacked :=
  let bits := 8 * b.size
  match kind with
  | 0 => unpackStored b out pos
  | 1 =>
    match BlockCodes.fixed? with
    | some codes => unpackPieces b codes bits out pos
    | none => ⟨out, .error (.broken .symbolCode)⟩
  | 2 =>
    match BlockCodes.read b pos with
    | .ok (codes, pos) => unpackPieces b codes bits out pos
    | .error e => ⟨out, .error e⟩
  | _ => ⟨out, .error (.broken .blockKind)⟩

/-- Unpacks blocks up to the last one, which says that it is. -/
def unpackBlocks (b : Bytes) : Nat → Bytes → Nat → Unpacked
  | 0, out, _ => ⟨out, .error .exhausted⟩
  | blocks + 1, out, pos =>
    match readBits b 1 pos with
    | .error e => ⟨out, .error e⟩
    | .ok (last, pos) =>
      match readBits b 2 pos with
      | .error e => ⟨out, .error e⟩
      | .ok (kind, pos) =>
        let done := unpackBlock b kind out pos
        match done.place with
        | .error _ => done
        | .ok pos => if last = 1 then done else unpackBlocks b blocks done.out pos

/-- Unpacks content. A block takes three bits at least. -/
def inflate (b : Bytes) : Unpacked := unpackBlocks b (8 * b.size) #[] 0

end ThreatScan.Archive
