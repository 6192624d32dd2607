import ThreatScan.Disk.Path
import ThreatScan.Text.Utf8
/-!
A disk: files and directories by their location.

A location is the list of names from the root. A path is walked name by name; every name but the last must be a directory.
The working directory and the directory for temporary files are always there. Names and paths have a limited length in bytes,
and no path holds a null character.
-/
namespace ThreatScan

/-- What a file holds: a text, stored in UTF-8, or bytes. -/
inductive Content where
  | text (s : String)
  | bytes (bs : List UInt8)
  deriving DecidableEq, Repr

/-- Why a file that is there cannot be opened. -/
inductive Denial where
  | permission | failure
  deriving DecidableEq, Repr

inductive Entry where
  | file (content : Content) (denial : Option Denial)
  | dir
  deriving DecidableEq, Repr

inductive DiskError where
  | notFound (path : String)
  | denied (path : String)
  | failure (path : String)
  | alreadyThere (path : String)
  | notDirectory (path : String)
  | isDirectory (path : String)
  | tooLong (path : String)
  | nullInPath
  deriving DecidableEq, Repr

def DiskError.message : DiskError → String
  | .notFound p => "[Errno 2] No such file or directory: " ++ Text.quote p
  | .failure p => "[Errno 5] Input/output error: " ++ Text.quote p
  | .denied p => "[Errno 13] Permission denied: " ++ Text.quote p
  | .alreadyThere p => "[Errno 17] File exists: " ++ Text.quote p
  | .notDirectory p => "[Errno 20] Not a directory: " ++ Text.quote p
  | .isDirectory p => "[Errno 21] Is a directory: " ++ Text.quote p
  | .tooLong p => "[Errno 36] File name too long: " ++ Text.quote p
  | .nullInPath => "embedded null byte"

/-- A location: the names that lead to it from the root. -/
abbrev Location := List String

structure Disk where
  entries : List (Location × Entry)

namespace Disk

def empty : Disk := ⟨[]⟩

/-- The location of a path that holds no dots. -/
def placeOf (path : String) : Location := (Path.pieces path).filter fun name => !name.isEmpty

def workPlace : Location := placeOf Path.work

def tempPlace : Location := placeOf Path.temp

/-- The directories that are always there: those that a program works in, and all above them. -/
def roots : List Location := [workPlace, tempPlace].flatMap fun l => (List.range (l.length + 1)).map fun n => l.take n

def get? (d : Disk) (l : Location) : Option Entry :=
  if roots.contains l then some .dir else d.entries.lookup l

def erase (d : Disk) (l : Location) : Disk := ⟨d.entries.filter fun e => e.1 != l⟩

def set (d : Disk) (l : Location) (e : Entry) : Disk := ⟨(d.erase l).entries ++ [(l, e)]⟩

/-- Where the walk along a path starts, and the names on it. -/
def split (path : String) : Location × List String :=
  (if Path.isAbsolute path then [] else workPlace, Path.pieces path)

def descend (l : Location) (name : String) : Location :=
  if name.isEmpty || name == "." then l
  else if name == ".." then l.dropLast
  else l ++ [name]

inductive Blocked where
  | missing | throughFile | tooLong | null

/-- The greatest number of bytes of a name. -/
def nameLimit : Nat := 255

/-- The greatest number of bytes of a path. -/
def pathLimit : Nat := 4095

/-- Walks down the names; every location on the way must be a directory. -/
def walk (d : Disk) (l : Location) : List String → Except Blocked Location
  | [] => .ok l
  | name :: rest =>
    match d.get? l with
    | none => .error .missing
    | some (.file _ _) => .error .throughFile
    | some .dir => if nameLimit < name.utf8ByteSize then .error .tooLong else walk d (descend l name) rest

/-- The location of a path, whether or not something stands there. -/
def locate (d : Disk) (path : String) : Except Blocked Location :=
  if path.isEmpty then .error .missing
  else if path.toList.contains (Char.ofNat 0) then .error .null
  else if pathLimit < path.utf8ByteSize then .error .tooLong
  else
    let (root, names) := split path
    walk d root names

/-- What stands at a path. A path that ends in a slash is a directory. -/
def entry? (d : Disk) (path : String) : Option Entry :=
  match d.locate path with
  | .ok l =>
    match d.get? l with
    | some (.file c n) => if Text.endsWith path "/" then none else some (.file c n)
    | e => e
  | .error _ => none

def has (d : Disk) (path : String) : Bool := (d.entry? path).isSome

def isFile (d : Disk) (path : String) : Bool :=
  match d.entry? path with
  | some (.file _ _) => true
  | _ => false

def isDir (d : Disk) (path : String) : Bool := d.entry? path == some .dir

def blocked (path : String) : Blocked → DiskError
  | .missing => .notFound path
  | .throughFile => .notDirectory path
  | .tooLong => .tooLong path
  | .null => .nullInPath

def read (d : Disk) (path : String) : Except DiskError Content :=
  match d.locate path with
  | .error b => .error (blocked path b)
  | .ok l =>
    match d.get? l with
    | none => .error (.notFound path)
    | some .dir => .error (.isDirectory path)
    | some (.file c denial) =>
      if Text.endsWith path "/" then .error (.notDirectory path)
      else
        match denial with
        | none => .ok c
        | some .permission => .error (.denied path)
        | some .failure => .error (.failure path)

/-- A path without the slashes at its end. -/
def bare (path : String) : String :=
  let s := Text.dropRight (· == '/') path.toList
  if s.isEmpty then path else String.ofList s

/-- Why no file can be at a path that ends in a slash: the way to its last name is blocked, or it would be a directory. -/
def slashed (d : Disk) (path : String) : DiskError :=
  let above := Path.dirName (bare path)
  if path.toList.contains (Char.ofNat 0) then .nullInPath
  else if pathLimit < path.utf8ByteSize then .tooLong path
  else
    match d.locate (if above.isEmpty then "." else above ++ "/.") with
    | .error b => blocked path b
    | .ok _ => .isDirectory path

/-- Puts a content at a path, in place of what the file held; the directory must be there. -/
def write (d : Disk) (path : String) (c : Content) : Except DiskError Disk :=
  if Text.endsWith path "/" then .error (d.slashed path)
  else
    match d.locate path with
    | .error b => .error (blocked path b)
    | .ok l =>
      match d.get? l with
      | some .dir => .error (.isDirectory path)
      | some (.file _ (some .permission)) => .error (.denied path)
      | some (.file _ (some .failure)) => .error (.failure path)
      | _ => .ok (d.set l (.file c none))

def addText : Content → String → Content
  | .text s, t => .text (s ++ t)
  | .bytes bs, t => .bytes (bs ++ t.toUTF8.toList)

/-- Puts a text behind what a file holds; a file that is not there is made. -/
def append (d : Disk) (path : String) (t : String) : Except DiskError Disk :=
  match d.entry? path with
  | some (.file c _) => d.write path (addText c t)
  | _ => d.write path (.text t)

def remove (d : Disk) (path : String) : Except DiskError Disk :=
  match d.locate path with
  | .error b => .error (blocked path b)
  | .ok l =>
    match d.get? l with
    | none => .error (.notFound path)
    | some .dir => .error (.isDirectory path)
    | some (.file _ _) => if Text.endsWith path "/" then .error (.notDirectory path) else .ok (d.erase l)

def occupied (d : Disk) (l : Location) : Bool := d.entries.any fun e => l.isPrefixOf e.1 && e.1 != l

/-- Removes a directory with nothing in it; anything else stays. -/
def removeDir (d : Disk) (path : String) : Disk :=
  match d.locate path with
  | .error _ => d
  | .ok l => if d.get? l == some .dir && !d.occupied l then d.erase l else d

def removeTree (d : Disk) (path : String) : Disk :=
  match d.locate path with
  | .error _ => d
  | .ok l => ⟨d.entries.filter fun e => !l.isPrefixOf e.1⟩

/-- Makes the directories along a list of names, those that are missing. -/
def makeAlong (d : Disk) (l : Location) : List String → Except Blocked Disk
  | [] => .ok d
  | name :: rest =>
    let next := descend l name
    match d.get? next with
    | some .dir => makeAlong d next rest
    | some (.file _ _) => .error .throughFile
    | none => makeAlong (d.set next .dir) next rest

/-- Makes one directory; one that is there already is no failure. -/
def makeDir (d : Disk) (path : String) : Except DiskError Disk :=
  match d.locate (bare path) with
  | .error b => .error (blocked path b)
  | .ok l =>
    match d.get? l with
    | none => .ok (d.set l .dir)
    | some _ => if d.isDir path then .ok d else .error (.alreadyThere path)

/-- Makes a directory and, before it, those above it that are missing. A single dot below one that was missing is that
directory itself. -/
def makeDirsFrom : Nat → Disk → String → Except DiskError Disk
  | 0, d, _ => .ok d
  | fuel + 1, d, path =>
    let trimmed := if (Path.baseName path).isEmpty then Path.dirName path else path
    let head := Path.dirName trimmed
    let tail := Path.baseName trimmed
    if !head.isEmpty && !tail.isEmpty && !d.has head then
      match makeDirsFrom fuel d head with
      | .error (.alreadyThere _) => if tail == "." then .ok d else d.makeDir path
      | .error e => .error e
      | .ok d => if tail == "." then .ok d else d.makeDir path
    else d.makeDir path

def makeDirs (d : Disk) (path : String) : Except DiskError Disk := makeDirsFrom (path.toList.length + 1) d path

def plant (d : Disk) (path : String) (e : Entry) : Disk :=
  let (root, names) := split path
  let names := names.filter fun n => !n.isEmpty && n != "."
  let above := match makeAlong d root names.dropLast with
    | .ok d => d
    | .error _ => d
  above.set (root ++ names) e

def files (d : Disk) : List Location :=
  d.entries.filterMap fun
    | (l, .file _ _) => some l
    | (_, .dir) => none

/-- The path from a directory down to a location below it. -/
def below (dir l : Location) : Option String :=
  if dir.isPrefixOf l && dir != l then some (Text.join "/" (l.drop dir.length)) else none

/-- The content as text, with uniform line ends. -/
def textOf : Content → Except Text.DecodeError String
  | .text s => .ok (String.ofList (Text.uniformLines s.toList))
  | .bytes bs => (Text.strictly (Text.bytePieces 0 bs)).map fun cs => String.ofList (Text.uniformLines cs)

/-- The content as text, broken pieces left out. -/
def lenientTextOf : Content → String
  | .text s => String.ofList (Text.uniformLines s.toList)
  | .bytes bs => String.ofList (Text.uniformLines (Text.leniently (Text.bytePieces 0 bs)))

/-- The content with a character for each byte. -/
def byteTextOf : Content → String
  | .text s => String.ofList (Text.uniformLines (Text.byteChars s.toUTF8.toList))
  | .bytes bs => String.ofList (Text.uniformLines (Text.byteChars bs))

theorem get?_set_ne (d : Disk) {l m : Location} (e : Entry) (h : m ≠ l) : (d.set l e).get? m = d.get? m := by
  unfold get? set erase
  split
  · rfl
  · induction d.entries with
    | nil =>
      have hm : (m == l) = false := by simp [h]
      simp [List.lookup_cons, hm]
    | cons x rest ih =>
      obtain ⟨k, v⟩ := x
      by_cases hk : k = l
      · subst hk
        have hm : (m == k) = false := by simp [h]
        simpa [List.filter, List.lookup_cons, hm] using ih
      · have hk' : (k != l) = true := by simp [hk]
        by_cases hm : m = k
        · subst hm; simp [List.filter, hk']
        · have hm' : (m == k) = false := by simp [hm]
          simpa [List.filter, hk', List.lookup_cons, hm'] using ih

end Disk

inductive TextError where
  | disk (e : DiskError)
  | decode (e : Text.DecodeError)
  deriving DecidableEq, Repr

def TextError.message : TextError → String
  | .disk e => e.message
  | .decode e => e.message

def Disk.readText (d : Disk) (path : String) : Except TextError String :=
  match d.read path with
  | .error e => .error (.disk e)
  | .ok c =>
    match Disk.textOf c with
    | .ok s => .ok s
    | .error e => .error (.decode e)

/-- A source file that cannot be analysed. -/
inductive SourceError where
  | missing (path : String)
  | notFile (path : String)
  | denied (path : String)
  | unreadable (path : String) (reason : String)
  deriving DecidableEq, Repr

def SourceError.message : SourceError → String
  | .missing p => "File not found: " ++ p
  | .notFile p => "Path is not a file: " ++ p
  | .denied p => "Permission denied: " ++ p
  | .unreadable p reason => "Error reading file " ++ p ++ ": " ++ reason

/-- The text of a source file; one that is not UTF-8 is read with a character for each byte. -/
def Disk.readSource (d : Disk) (path : String) : Except SourceError String :=
  if !d.has path then .error (.missing path)
  else if !d.isFile path then .error (.notFile path)
  else
    match d.read path with
    | .error (.denied _) => .error (.denied path)
    | .error e => .error (.unreadable path e.message)
    | .ok c =>
      match Disk.textOf c with
      | .ok s => .ok s
      | .error _ => .ok (Disk.byteTextOf c)

end ThreatScan
