import ThreatScan.Language
import ThreatScan.Page.Basic
/-!
Uploaded archives: unpacking them on the disk and listing the source files in them.
-/
namespace ThreatScan.Page

/-! Unpacking. -/

/-- The names of a member's path that count: empty names and dots are left out. -/
def memberNames (member : String) : List String :=
  (Path.pieces member).filter fun name => !(name.isEmpty || name == "." || name == "..")

def memberPath (dir member : String) : String := Text.join "/" (dir :: memberNames member)

/-- Makes the directory that a path lies in, unless something is there. -/
def makeParent (target : String) : Act Unit := do
  let parent := Path.dirName target
  if !parent.isEmpty && !(← get).disk.has parent then Host.makeDirs parent

def placeMember (dir name : String) (content : Act Content) : Act Unit := do
  let target := memberPath dir name
  makeParent target
  if Text.endsWith name "/" then
    if !(← get).disk.isDir target then Host.onDisk fun d => d.makeDir target
  else
    let content ← content
    Host.onDisk fun d => d.write target content

/-- Unpacks a member of an archive of bytes. A file is made before its content is unpacked. -/
def unpackMember (dir : String) (b : Archive.Bytes) (m : Archive.Member) : Act Unit :=
  placeMember dir m.name do
    let (start, storage) ← Act.check .archive (m.start b)
    Host.onDisk fun d => d.write (memberPath dir m.name) (.bytes [])
    let bytes ← Act.check .archive (m.content b start storage)
    return .bytes bytes.toList

def unpack (dir : String) (u : Upload) : Act Unit :=
  match u.body with
  | .file c => do
    let b := (contentBytes c).toArray
    let members ← Act.check .archive (Archive.unpackedMembers b)
    members.forM (unpackMember dir b)
  | .archive members => members.forM fun m => placeMember dir m.1 (pure (.text m.2))

/-! Listing. -/

/-- The order in which the files below a directory are visited: those of a directory before those of the directories in
it, and names in their order. -/
def visitedBefore : List String → List String → Bool
  | [a], [b] => decide (a ≤ b)
  | [_], _ => true
  | _, [_] => false
  | a :: as, b :: bs => if a = b then visitedBefore as bs else decide (a < b)
  | [], _ => true
  | _, [] => false

def filesBelow (d : Disk) (dir : String) : List (List String) :=
  match d.locate dir with
  | .ok l => (d.files.filterMap fun f => if l.isPrefixOf f && l != f then some (f.drop l.length) else none).mergeSort
      visitedBefore
  | .error _ => []

def isSourceName (name : String) : Bool :=
  [".py", ".go", ".java"].contains (Text.lower (Path.splitExt name).2)

structure SourceFile where
  path : String
  name : String
  language : String
  dir : String
  deriving DecidableEq, Repr

def SourceFile.toValue (f : SourceFile) : Value :=
  .dict [("path", .str f.path), ("name", .str f.name), ("language", .str f.language), ("temp_dir", .str f.dir)]

def sourceFile (d : Disk) (dir : String) (names : List String) : SourceFile :=
  let name := Text.join "/" names
  let path := dir ++ "/" ++ name
  ⟨path, name, Language.detect d path, dir⟩

def sourceFiles (d : Disk) (dir : String) : List SourceFile :=
  ((filesBelow d dir).filter fun names => isSourceName (names.getLastD "")).map (sourceFile d dir)

/-- The files of one language; all files if no language is chosen. -/
def ofLanguage (language : String) (files : List SourceFile) : List SourceFile :=
  if language.isEmpty then files else files.filter fun f => f.language == language

/-! Uploads. -/

def uploadDir : String := "data/uploads"

def archiveDir : String := Path.join uploadDir "zip_1234567890abcdef1234567890abcdef"

def receive (u : Upload) (language : String) : Act (List SourceFile) := do
  Host.makeDirs uploadDir
  Host.makeDirs archiveDir
  Host.onDisk fun d => d.write (Path.join archiveDir u.name) u.content
  unpack archiveDir u
  return ofLanguage language (sourceFiles (← get).disk archiveDir)

/-- Takes an uploaded archive in. A failure is shown, and then no files are listed. -/
def takeArchive (u : Upload) (language : String) : Page (List SourceFile) := do
  match ← attempt (onHost (receive u language)) with
  | .error e =>
    say "error" ("❌ ZIP 文件处理失败：" ++ e.message)
    return []
  | .ok files =>
    let dirs := ((← remembered? "zip_temp_dirs").getD (.list [])).items.toOption.getD []
    remember "zip_temp_dirs" (.list (dirs ++ [.str archiveDir]))
    return files

/-- Removes directories that uploads were unpacked in. -/
def cleanUp (d : Disk) (dirs : List Value) : Except Fault Disk :=
  dirs.foldlM (fun d dir => do
    match ← path? dir with
    | some p => return if d.isDir p then d.removeTree p else d
    | none => return d) d

end ThreatScan.Page
