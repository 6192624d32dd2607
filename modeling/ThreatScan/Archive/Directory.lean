import ThreatScan.Archive.Basic
/-!
The directory of an archive.

An archive ends with a record that tells where its directory is. The directory lists the members: their names, how they are
stored, and where. Something may stand before the archive, so places are counted from where the archive begins. Large numbers
have records of their own.
-/
namespace ThreatScan.Archive

/-! The end record. -/

/-- Where the directory is: its size, its place counted from the beginning of the archive, and the place of the record
after it. -/
structure EndRecord where
  size : Nat
  offset : Nat
  place : Int
  deriving DecidableEq, Repr

namespace EndRecord

def mark : List UInt8 := [0x50, 0x4B, 5, 6]

/-- The bytes of the record, without the comment after it. -/
def length : Nat := 22

def largeMark : List UInt8 := [0x50, 0x4B, 6, 6]

/-- The bytes of the record for large numbers. -/
def largeLength : Nat := 56

def locatorMark : List UInt8 := [0x50, 0x4B, 6, 7]

/-- The bytes of the record that tells of the one for large numbers. -/
def locatorLength : Nat := 20

/-- The last place of the mark before a place, but not before `least`. -/
def lastMark? (b : Bytes) (least : Nat) : Nat → Option Nat
  | 0 => none
  | pos + 1 =>
    if pos < least then none else if startsAt b pos mark then some pos else lastMark? b least pos

/-- Where the record is: at the end of the archive, or before a comment. -/
def find? (b : Bytes) : Option Nat :=
  if b.size < length then none
  else
    let last := b.size - length
    if startsAt b last mark && number b (b.size - 2) 2 == 0 then some last
    else
      match lastMark? b (last - 0x10000) b.size with
      | some pos => if pos ≤ last then some pos else none
      | none => none

/-- Reads the record at a place, and the one for large numbers before it if there is one. -/
def readAt (b : Bytes) (pos : Nat) : Except ArchiveError EndRecord :=
  let small : EndRecord := ⟨number b (pos + 12) 4, number b (pos + 16) 4, pos⟩
  let locator := pos - locatorLength
  let large := locator - largeLength
  if pos < locatorLength || !startsAt b locator locatorMark then .ok small
  else if number b (locator + 4) 4 ≠ 0 ∨ 1 < number b (locator + 16) 4 then .error .severalDisks
  else if locator < largeLength then .error .noArchive
  else if startsAt b large largeMark then
    .ok ⟨number b (large + 40) 8, number b (large + 48) 8, (pos : Int) - (largeLength + locatorLength : Nat)⟩
  else .ok small

def read (b : Bytes) : Except ArchiveError EndRecord :=
  match find? b with
  | some pos => readAt b pos
  | none => .error .noArchive

end EndRecord

/-! The entries. -/

/-- The sizes and the place of a member, which may be given as large numbers. -/
structure Extent where
  size : Nat
  packedSize : Nat
  offset : Nat

namespace Extent

/-- The number that says that a large number stands elsewhere. -/
def elsewhere : Nat := 0xFFFFFFFF

/-- Takes the next large number, if one is asked for. -/
def takeLarge (asked : Bool) (what : String) (old : Nat) (b : Bytes) : Except ArchiveError (Nat × Bytes) :=
  if !asked then .ok (old, b)
  else if b.size < 8 then .error (.missingNumber what)
  else .ok (number b 0 8, slice b 8 b.size)

/-- The extent with the large numbers of a field. -/
def withLarge (e : Extent) (b : Bytes) : Except ArchiveError Extent := do
  let (size, b) ← takeLarge (e.size == elsewhere || e.size == 0xFFFFFFFFFFFFFFFF) "File size" e.size b
  let (packedSize, b) ← takeLarge (e.packedSize == elsewhere) "Compress size" e.packedSize b
  let (offset, _) ← takeLarge (e.offset == elsewhere) "Header offset" e.offset b
  return ⟨size, packedSize, offset⟩

/-- The extent with what the extra fields say. There are no more fields than bytes. -/
def withExtra : Nat → Extent → Bytes → Except ArchiveError Extent
  | 0, e, _ => .ok e
  | fields + 1, e, b =>
    if b.size < 4 then .ok e
    else do
      let tag := number b 0 2
      let length := number b 2 2
      if b.size < length + 4 then throw (.badExtra tag length)
      let e ← if tag = 1 then e.withLarge (slice b 4 length) else pure e
      withExtra fields e (slice b (length + 4) b.size)

end Extent

def entryMark : List UInt8 := [0x50, 0x4B, 1, 2]

/-- The bytes of an entry, without the name and what follows it. -/
def entryLength : Nat := 46

/-- The latest version of the format that can be unpacked, in tenths. -/
def latestVersion : Nat := 63

/-- Reads the entry at the start of the bytes; `begins` is where the archive begins. Gives also the length of the entry. -/
def readEntry (b : Bytes) (begins : Int) : Except ArchiveError (Member × Nat) := do
  if b.size < entryLength then throw .directoryTooShort
  if !startsAt b 0 entryMark then throw .badEntry
  let flags := number b 8 2
  let nameLength := number b 28 2
  let extraLength := number b 30 2
  let written ← match nameText (flags / utf8Flag % 2 == 1) (slice b entryLength nameLength) with
    | .ok s => pure s
    | .error e => throw (.badName e)
  let version := number b 6 1
  if latestVersion < version then throw (.version version)
  let extra := slice b (entryLength + nameLength) extraLength
  let extent ← Extent.withExtra extra.size ⟨number b 24 4, number b 20 4, number b 42 4⟩ extra
  return ({ written, flags, method := number b 10 2, checksum := number b 16 4, packedSize := extent.packedSize,
            size := extent.size, offset := extent.offset + begins, attributes := number b 38 4 },
    entryLength + nameLength + extraLength + number b 32 2)

/-- Reads the entries of a directory, of which `left` bytes should be there. -/
def readEntries (begins : Int) : Nat → Nat → Bytes → Except ArchiveError (List Member)
  | 0, _, _ => .ok []
  | entries + 1, left, b =>
    if left = 0 then .ok []
    else do
      let (m, length) ← readEntry b begins
      let rest ← readEntries begins entries (left - length) (slice b length b.size)
      return m :: rest

def members (b : Bytes) : Except ArchiveError (List Member) := do
  let record ← EndRecord.read b
  let start := record.place - record.size
  if start < 0 then throw .badPlace
  readEntries (start - record.offset) (record.size + 1) record.size (slice b start.toNat record.size)

/-- The members that are unpacked, in their order: of several with one name the last one stands for all. -/
def unpackedMembers (b : Bytes) : Except ArchiveError (List Member) := do
  let all ← members b
  return all.map fun m => (all.reverse.find? fun other => other.name == m.name).getD m

end ThreatScan.Archive
