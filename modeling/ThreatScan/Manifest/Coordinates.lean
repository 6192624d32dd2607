import ThreatScan.Manifest.Requirements
/-!
Coordinates of Java artifacts: in the elements of a project description, or in the dependencies block of a build script.
-/
namespace ThreatScan.Coordinates

/-! Elements of a project description. -/

/-- What stands between the next opening mark and the closing mark after it, and what follows. -/
def between? (opening closing : String) (s : List Char) : Option (List Char × List Char) := do
  let (_, inside) ← Text.breakAt? opening.toList s
  Text.breakAt? closing.toList inside

/-- The next dependency, and what follows it. Each mark is looked for behind the one before it. -/
def nextElement? (source : String) (s : List Char) : Option (Dependency × List Char) := do
  let (_, s) ← Text.breakAt? "<dependency>".toList s
  let (group, s) ← between? "<groupId>" "</groupId>" s
  let (artifact, s) ← between? "<artifactId>" "</artifactId>" s
  let (version, s) ← between? "<version>" "</version>" s
  let (_, s) ← Text.breakAt? "</dependency>".toList s
  let name := String.ofList (Text.trimList group ++ ':' :: Text.trimList artifact)
  some (⟨name, String.ofList (Text.trimList version), none, source⟩, s)

/-- The dependencies of a text with at most so many of them. -/
def elements (source : String) : Nat → List Char → List Dependency
  | 0, _ => []
  | fuel + 1, s =>
    match nextElement? source s with
    | some (d, rest) => d :: elements source fuel rest
    | none => []

/-- The dependencies of a project description; each is longer than one character. -/
def ofElements (source : String) (text : String) : List Dependency :=
  elements source text.toList.length text.toList

/-! The block of a build script. -/

/-- What follows the opening brace, if the text starts with one after blanks. -/
def blockStart? (s : List Char) : Option (List Char) :=
  match s.dropWhile Text.isBlank with
  | '\x7b' :: rest => some rest
  | _ => none

/-- The text up to the closing brace, if it is not empty and there is one. -/
def untilBrace? (s : List Char) : Option (List Char) :=
  match Text.breakAt? ['\x7d'] s with
  | some ([], _) => none
  | some (inside, _) => some inside
  | none => none

/-- The inside of the first block that follows the key. -/
def blockOf? (key : List Char) : List Char → Option (List Char)
  | [] => none
  | c :: rest =>
    let inside := if key.isPrefixOf (c :: rest) then (blockStart? ((c :: rest).drop key.length)).bind untilBrace? else none
    match inside with
    | some inside => some inside
    | none => blockOf? key rest

/-- Cuts a text at its last colon behind a character and before a rest that can be read. -/
def lastSplit? {α : Type} (readRest : List Char → Option α) : List Char → Option (List Char × α)
  | [] => none
  | c :: rest =>
    match lastSplit? readRest rest with
    | some (before, r) => some (c :: before, r)
    | none =>
      match rest with
      | ':' :: after => (readRest after).map fun r => ([c], r)
      | _ => none

def nonEmpty? (s : List Char) : Option (List Char) := if s.isEmpty then none else some s

/-- Group, artifact and version of a coordinate; the group and then the artifact take as much as they can. -/
def ofText? (s : List Char) : Option (List Char × List Char × List Char) :=
  lastSplit? (lastSplit? nonEmpty?) s

/-- The first coordinate between two quotes on a line. -/
def onLine? (source : String) : List Char → Option Dependency
  | [] => none
  | c :: rest =>
    let closed := !(rest.dropWhile (!Requirement.isQuote ·)).isEmpty
    let found := if Requirement.isQuote c && closed then ofText? (rest.takeWhile (!Requirement.isQuote ·)) else none
    match found with
    | some (group, artifact, version) =>
      some ⟨String.ofList (group ++ ':' :: artifact), String.ofList version, none, source⟩
    | none => onLine? source rest

def ofBlock (source : String) (text : String) : List Dependency :=
  match blockOf? "dependencies".toList text.toList with
  | some inside => (Text.cutAt '\n' inside).filterMap (onLine? source)
  | none => []

end ThreatScan.Coordinates
