import ThreatScan.Archive.Basic
/-!
The contents of members.

A header stands before each content and repeats the name. The content is stored as it is or compressed; it must be as long as
the directory says, or shorter, and have the listed checksum.
-/
namespace ThreatScan.Archive

def headerMark : List UInt8 := [0x50, 0x4B, 3, 4]

/-- The bytes before a member, without its name and what follows it. -/
def headerLength : Nat := 30

inductive Storage where
  | plain | deflated
  deriving DecidableEq, Repr

def Storage.ofNumber? : Nat → Option Storage
  | 0 => some .plain
  | 8 => some .deflated
  | _ => none

namespace Member

/-- Where the content of a member starts and how it is stored. The name before the content must be the listed one. -/
def start (b : Bytes) (m : Member) : Except ArchiveError (Nat × Storage) := do
  if m.offset < 0 then throw .outside
  let pos := m.offset.toNat
  if b.size < pos + headerLength then throw .headerTooShort
  if !startsAt b pos headerMark then throw .badHeader
  let nameLength := number b (pos + 26) 2
  let found := slice b (pos + headerLength) nameLength
  if m.has patchFlag then throw .patch
  if m.has strongFlag then throw .strongEncryption
  match nameText (number b (pos + 6) 2 / utf8Flag % 2 == 1) found with
  | .error e => throw (.badName e)
  | .ok name => if name ≠ m.written then throw (.otherName m.written found)
  if m.has encryptedFlag then throw (.encrypted m)
  match Storage.ofNumber? m.method with
  | some storage => return (pos + headerLength + nameLength + number b (pos + 28) 2, storage)
  | none => throw .unknownMethod

/-- What the stored bytes of a member hold. They need not all be there if those that are there bring enough. -/
def unpacked (m : Member) (storage : Storage) (packed : Bytes) : Except ArchiveError Bytes :=
  let complete := packed.size = m.packedSize
  match storage with
  | .plain => if complete ∨ m.size ≤ packed.size ∧ packed.size ≠ 0 then .ok packed else .error .endOfArchive
  | .deflated =>
    let done := inflate packed
    match done.place with
    | .ok _ => .ok done.out
    | .error (.broken why) => .error (.packed why)
    | .error .exhausted =>
      if complete ∨ m.size ≤ done.out.size ∧ packed.size ≠ 0 then .ok done.out else .error .endOfArchive

def content (b : Bytes) (m : Member) (start : Nat) (storage : Storage) : Except ArchiveError Bytes := do
  let bytes := slice (← m.unpacked storage (slice b start m.packedSize)) 0 m.size
  if Archive.checksum bytes = m.checksum then return bytes else throw (.badChecksum m.name)

end Member

end ThreatScan.Archive
