import ThreatScan.Archive.Content
import ThreatScan.Archive.Directory
import ThreatScan.Disk.Basic
/-!
Files that a visitor uploads: a file with its content, or an archive with its members.
-/
namespace ThreatScan.Page

/-- What an upload holds. The members of an archive are named by their paths; a path that ends in a slash is a
directory. -/
inductive UploadBody where
  | file (c : Content)
  | archive (members : List (String × String))

structure Upload where
  name : String
  body : UploadBody

def UploadBody.ofMembers (members : List (String × String)) : UploadBody :=
  .archive (members.map fun m => (Archive.keptName m.1, m.2))

def contentBytes : Content → List UInt8
  | .text s => s.toUTF8.toList
  | .bytes bs => bs

def contentSize : Content → Nat
  | .text s => s.utf8ByteSize
  | .bytes bs => bs.length

/-- How many bytes a member takes in an archive: a header, its content and an entry in the directory of the archive. -/
def memberSize (m : String × String) : Nat := 76 + 2 * m.1.utf8ByteSize + m.2.utf8ByteSize

/-- How many bytes an archive of members that are not compressed takes. -/
def archiveSize (members : List (String × String)) : Nat := members.foldl (fun n m => n + memberSize m) 22

def Upload.size (u : Upload) : Nat :=
  match u.body with
  | .file c => contentSize c
  | .archive members => archiveSize members

/-- The first bytes of an archive; they tell an archive from other files. -/
def archiveSignature (members : List (String × String)) : List UInt8 :=
  if members.isEmpty then [0x50, 0x4B, 5, 6] else [0x50, 0x4B, 3, 4]

/-- What is kept of an upload as a file of its own. Of an archive only its signature is kept. -/
def Upload.content (u : Upload) : Content :=
  match u.body with
  | .file c => c
  | .archive members => .bytes (archiveSignature members)

/-- The text of an upload, with its line ends as they are. The flags of a member are no text. -/
def Upload.text (u : Upload) : Except Text.DecodeError String :=
  match u.body with
  | .file (.text s) => .ok s
  | .file (.bytes bs) => (Text.strictly (Text.bytePieces 0 bs)).map String.ofList
  | .archive [] => .ok (String.ofList ('P' :: 'K' :: Char.ofNat 5 :: Char.ofNat 6 :: List.replicate 18 (Char.ofNat 0)))
  | .archive members => (Text.strictly (Text.bytePieces (archiveSize members) [0x80])).map String.ofList

def Upload.unpackable (u : Upload) : List (String × Content) :=
  match u.body with
  | .archive members => members.map fun m => (m.1, .text m.2)
  | .file c =>
    let b := (contentBytes c).toArray
    match Archive.unpackedMembers b with
    | .error _ => []
    | .ok members => members.filterMap fun m =>
      match (m.start b).bind fun (start, storage) => m.content b start storage with
      | .ok bytes => some (m.name, .bytes bytes.toList)
      | .error _ => none

end ThreatScan.Page
