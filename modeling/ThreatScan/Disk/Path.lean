import ThreatScan.Text.Basic
/-!
Paths as texts: joining, cutting off the last name or the extension, and the absolute form.

A path is absolute when it starts with a slash; any other is relative to the working directory.
-/
namespace ThreatScan.Path

def work : String := "/var/lib/threatscan/work"

def temp : String := "/var/lib/threatscan/temp"

def isAbsolute (path : String) : Bool := Text.startsWith path "/"

def join (dir path : String) : String :=
  if isAbsolute path then path
  else if dir.isEmpty || Text.endsWith dir "/" then dir ++ path
  else dir ++ "/" ++ path

def pieces (path : String) : List String := Text.cut path "/"

def baseName (path : String) : String := (pieces path).getLastD ""

def headPart (path : String) : List Char :=
  (path.toList.reverse.dropWhile (· != '/')).reverse

/-- The part before the last slash; of a path of slashes only, the slashes. -/
def dirName (path : String) : String :=
  let head := headPart path
  if head.all (· == '/') then String.ofList head else String.ofList (Text.dropRight (· == '/') head)

/-- Where the extension of a name starts: its last dot, unless only dots come before it. -/
def splitName (name : List Char) : List Char × List Char :=
  let ext := (name.reverse.takeWhile (· != '.')).reverse
  if ext.length = name.length then (name, [])
  else
    let stem := name.take (name.length - ext.length - 1)
    if stem.all (· == '.') then (name, []) else (stem, '.' :: ext)

/-- A path without its extension, and the extension with its dot. -/
def splitExt (path : String) : String × String :=
  let head := headPart path
  let (stem, ext) := splitName (path.toList.drop head.length)
  (String.ofList (head ++ stem), String.ofList ext)

/-- One more name, those before it being in `place`, the last first: empty names and single dots stand for the directory
itself, two dots for the one above. Above the root is the root. -/
def enter (place : List String) (name : String) : List String :=
  if name.isEmpty || name == "." then place
  else if name == ".." then place.tail
  else name :: place

/-- The slashes at the start of an absolute path: two are kept, more count as one. -/
def leadingSlashes (path : String) : String :=
  if Text.startsWith path "//" && !Text.startsWith path "///" then "//" else "/"

/-- The absolute form of a path, without dots and doubled slashes. -/
def absolute (path : String) : String :=
  let full := join work path
  leadingSlashes full ++ Text.join "/" ((pieces full).foldl enter []).reverse

def folder (path : String) : String := dirName (absolute path)

end ThreatScan.Path
