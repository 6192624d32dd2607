import ThreatScan.Disk.Basic
import ThreatScan.Text.Case
/-!
The language of a source file, from its name and, failing that, from its first lines.
-/
namespace ThreatScan.Language

def extensions : List (String × String) :=
  [(".py", "python"), (".go", "go"), (".java", "java"), (".js", "javascript"), (".ts", "typescript"), (".cpp", "cpp"),
   (".c", "c"), (".cs", "csharp"), (".rb", "ruby"), (".php", "php")]

def displayNames : List (String × String) :=
  [("python", "Python"), ("go", "Go"), ("java", "Java"), ("javascript", "JavaScript"), ("typescript", "TypeScript"),
   ("cpp", "C++"), ("c", "C"), ("csharp", "C#"), ("ruby", "Ruby"), ("php", "PHP"), ("unknown", "Unknown")]

def supported : List String := ["python", "go", "java"]

def isSupported (language : String) : Bool := supported.contains language

def displayName (language : String) : String := (displayNames.lookup language).getD (Text.capitalize language)

def firstLines (n : Nat) (s : String) : String := Text.join "\n" ((Text.lines s).take n)

def ofFirstLines (head : String) : Option String :=
  if Text.contains head "package main" || Text.contains head "import (" then some "go"
  else if Text.contains head "package " && Text.contains head "import " then some "java"
  else if Text.contains head "#!/usr/bin/env python" || Text.contains head "def " then some "python"
  else none

/-- The language of a file: by its extension in lower case, else by its first five lines. -/
def detect (d : Disk) (path : String) : String :=
  if path.isEmpty then "unknown"
  else
    match extensions.lookup (Path.splitExt (Text.lower path)).2 with
    | some l => l
    | none =>
      if d.isFile path then
        match d.read path with
        | .ok c => (ofFirstLines (firstLines 5 (Disk.lenientTextOf c))).getD "unknown"
        | .error _ => "unknown"
      else "unknown"

end ThreatScan.Language
