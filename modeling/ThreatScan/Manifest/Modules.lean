import ThreatScan.Manifest.Dependency
/-!
Requirements of Go modules: single lines that start with the keyword, and blocks in parentheses.
-/
namespace ThreatScan.ModuleFile

/-- The dependency that a line declares: its first two words apart from the keyword. -/
def entry? (source : String) (line : String) : Option Dependency :=
  match Text.words (Text.trim (Text.replace line "require" "")) with
  | [] => none
  | [name] => some ⟨name, Dependency.unknownVersion, none, source⟩
  | name :: version :: _ => some ⟨name, version, none, source⟩

/-- Goes through the trimmed lines; `inside` says whether a block is open. -/
def scan (source : String) (inside : Bool) : List String → List Dependency
  | [] => []
  | line :: rest =>
    if line == "require (" then scan source true rest
    else if line == ")" && inside then scan source false rest
    else if Text.startsWith line "require " || inside then
      match entry? source line with
      | some d => d :: scan source inside rest
      | none => scan source inside rest
    else scan source inside rest

def read (source : String) (text : String) : List Dependency :=
  scan source false ((Text.lines text).map Text.trim)

end ThreatScan.ModuleFile
