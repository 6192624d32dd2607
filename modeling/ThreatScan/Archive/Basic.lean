import ThreatScan.Archive.CodePage
import ThreatScan.Archive.Inflate
import ThreatScan.Text.Basic
/-!
Members of archives, and what can be wrong with an archive.
-/
namespace ThreatScan.Archive

/-- The name that an archive keeps of a member: it ends before the first null character. -/
def keptName (name : String) : String := String.ofList (name.toList.takeWhile (· != '\x00'))

structure Member where
  written : String
  flags : Nat
  method : Nat
  checksum : Nat
  packedSize : Nat
  size : Nat
  offset : Int
  attributes : Nat
  deriving DecidableEq, Repr

namespace Member

def name (m : Member) : String := keptName m.written

def isDirectory (m : Member) : Bool := Text.endsWith m.name "/"

def has (m : Member) (flag : Nat) : Bool := m.flags / flag % 2 == 1

end Member

def encryptedFlag : Nat := 0x1

/-- The flag of a member that is a change to another file. -/
def patchFlag : Nat := 0x20

def strongFlag : Nat := 0x40

def utf8Flag : Nat := 0x800

inductive ArchiveError where
  | noArchive
  | severalDisks
  | badPlace
  | directoryTooShort
  | badEntry
  /-- A later version of the format is needed. -/
  | version (tenths : Nat)
  | badName (e : Text.DecodeError)
  | badExtra (tag size : Nat)
  /-- A large number is missing. -/
  | missingNumber (what : String)
  /-- A member lies before the archive. -/
  | outside
  | headerTooShort
  | badHeader
  | patch
  | strongEncryption
  | otherName (listed : String) (found : Bytes)
  | encrypted (m : Member)
  | unknownMethod
  | endOfArchive
  | packed (why : PackError)
  | badChecksum (name : String)

/-! The words for a member. -/

/-- The kinds of files by the upper bits of their mode. -/
def fileKinds : List (Nat × Char) :=
  [(0o10, '-'), (0o04, 'd'), (0o12, 'l'), (0o06, 'b'), (0o02, 'c'), (0o01, 'p'), (0o14, 's')]

/-- Three letters for the rights to read, to write and to execute; a special bit changes the last. -/
def rightLetters (rights : Nat) (special : Bool) (letter : Char) : List Char :=
  [if rights / 4 % 2 = 1 then 'r' else '-', if rights / 2 % 2 = 1 then 'w' else '-',
    match decide (rights % 2 = 1), special with
    | true, true => letter
    | false, true => letter.toUpper
    | true, false => 'x'
    | false, false => '-']

def modeText (mode : Nat) : String :=
  let bit (n : Nat) : Bool := mode / n % 2 == 1
  String.ofList ((fileKinds.lookup (mode / 0o10000)).getD '?' :: (rightLetters (mode / 0o100 % 8) (bit 0o4000) 's' ++
    rightLetters (mode / 0o10 % 8) (bit 0o2000) 's' ++ rightLetters (mode % 8) (bit 0o1000) 't'))

def methodNames : List (Nat × String) :=
  [(0, "store"), (1, "shrink"), (2, "reduce"), (3, "reduce"), (4, "reduce"), (5, "reduce"), (6, "implode"),
    (7, "tokenize"), (8, "deflate"), (9, "deflate64"), (10, "implode"), (12, "bzip2"), (14, "lzma"), (18, "terse"),
    (19, "lz77"), (97, "wavpack"), (98, "ppmd")]

def hexNumber (n : Nat) : String := String.ofList (Nat.toDigits 16 n)

/-- What is said of a member that is no directory. -/
def Member.description (m : Member) : String :=
  let mode := m.attributes / 0x10000
  let low := m.attributes % 0x10000
  "<ZipInfo filename=" ++ Text.quote m.name ++
    (if m.method = 0 then "" else " compress_type=" ++ (methodNames.lookup m.method).getD (toString m.method)) ++
    (if mode = 0 then "" else " filemode='" ++ modeText mode ++ "'") ++
    (if low = 0 then "" else " external_attr=0x" ++ hexNumber low) ++ " file_size=" ++ toString m.size ++
    (if m.method = 0 ∧ m.size = m.packedSize then "" else " compress_size=" ++ toString m.packedSize) ++ ">"

def ArchiveError.message : ArchiveError → String
  | .noArchive => "File is not a zip file"
  | .severalDisks => "zipfiles that span multiple disks are not supported"
  | .badPlace => "Bad offset for central directory"
  | .directoryTooShort => "Truncated central directory"
  | .badEntry => "Bad magic number for central directory"
  | .version tenths => "zip file version " ++ toString (tenths / 10) ++ "." ++ toString (tenths % 10)
  | .badName e => e.message
  | .badExtra tag size =>
    "Corrupt extra field " ++ String.ofList (Text.hexDigits 4 tag) ++ " (size=" ++ toString size ++ ")"
  | .missingNumber what => "Corrupt zip64 extra field. " ++ what ++ " not found."
  | .outside => "[Errno 22] Invalid argument"
  | .headerTooShort => "Truncated file header"
  | .badHeader => "Bad magic number for file header"
  | .patch => "compressed patched data (flag bit 5)"
  | .strongEncryption => "strong encryption (flag bit 6)"
  | .otherName listed found =>
    "File name in directory " ++ Text.quote listed ++ " and header " ++ quotedBytes found ++ " differ."
  | .encrypted m => "File " ++ m.description ++ " is encrypted, password required for extraction"
  | .unknownMethod => "That compression method is not supported"
  | .endOfArchive => ""
  | .packed why => "Error -3 while decompressing data: " ++ why.message
  | .badChecksum name => "Bad CRC-32 for file " ++ Text.quote name

end ThreatScan.Archive
