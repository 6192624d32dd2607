import ThreatScan.Manifest.Dependency
import ThreatScan.Text.Word
/-!
Requirements of Python projects: one to a line of a requirements file, or quoted in the list of a set-up script.

A requirement is a name, and then possibly comparison signs and a version. What follows is not looked at.
-/
namespace ThreatScan.Requirement

def isNameChar (c : Char) : Bool := Text.isWordChar c || c == '-' || c == '.'

def isConstraintChar (c : Char) : Bool := c == '>' || c == '<' || c == '=' || c == '!'

def isVersionChar (c : Char) : Bool := Text.isWordChar c || c == '.'

/-- The comparison signs and the version at the start of a text. -/
def bound? (s : List Char) : Option (List Char × List Char) :=
  let signs := s.takeWhile isConstraintChar
  let version := (s.dropWhile isConstraintChar).takeWhile isVersionChar
  if signs.isEmpty || version.isEmpty then none else some (signs, version)

/-- The requirement at the start of a text. Without a version any counts, and the sign is that of equality. -/
def read? (source : String) (s : List Char) : Option Dependency :=
  let name := s.takeWhile isNameChar
  if name.isEmpty then none
  else
    match bound? (s.dropWhile isNameChar) with
    | some (signs, version) => some ⟨String.ofList name, String.ofList version, some (String.ofList signs), source⟩
    | none => some ⟨String.ofList name, Dependency.unknownVersion, some "==", source⟩

/-- The requirement on a line; blank lines and comments have none. -/
def ofLine? (source : String) (line : List Char) : Option Dependency :=
  match Text.trimList line with
  | [] => none
  | c :: rest => if c = '#' then none else read? source (c :: rest)

def ofLines (source : String) (text : String) : List Dependency :=
  (Text.cutAt '\n' text.toList).filterMap (ofLine? source)

def isQuote (c : Char) : Bool := c == '"' || c == '\''

/-- The non-empty texts between two quotes, of either kind. A quote that ends one does not start the next: `skip` counts
the characters of the last one, with the quote that ends it, that are still to be passed. -/
def quotedFrom : Nat → List Char → List (List Char)
  | _, [] => []
  | skip + 1, _ :: rest => quotedFrom skip rest
  | 0, c :: rest =>
    let text := rest.takeWhile (!isQuote ·)
    if isQuote c && !text.isEmpty && decide (text.length < rest.length) then text :: quotedFrom (text.length + 1) rest
    else quotedFrom 0 rest

def quoted (s : List Char) : List (List Char) := quotedFrom 0 s

/-- What follows the equals sign and the opening bracket, if the text starts with them. -/
def listStart? (s : List Char) : Option (List Char) :=
  match s.dropWhile Text.isBlank with
  | '=' :: rest =>
    match rest.dropWhile Text.isBlank with
    | '[' :: rest => some rest
    | _ => none
  | _ => none

/-- The inside of the first list that the text assigns to the key. -/
def listOf? (key : List Char) : List Char → Option (List Char)
  | [] => none
  | c :: rest =>
    let opened := if key.isPrefixOf (c :: rest) then listStart? ((c :: rest).drop key.length) else none
    match opened with
    | some inside => (Text.breakAt? [']'] inside).map (·.1)
    | none => listOf? key rest

/-- The requirements of a set-up script: the quoted texts of its list of them. -/
def ofSetup (source : String) (text : String) : List Dependency :=
  match listOf? "install_requires".toList text.toList with
  | some inside => (quoted inside).filterMap (read? source)
  | none => []

end ThreatScan.Requirement
