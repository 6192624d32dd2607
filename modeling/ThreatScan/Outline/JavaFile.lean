import ThreatScan.Outline.Braces
import ThreatScan.Regex.Build
/-!
The outline of a Java file: its package, imports, classes, methods and variables, line by line.
-/
namespace ThreatScan

structure JavaFile where
  package : String
  imports : List String
  classes : List Block
  methods : List Declared
  declared : List Declared
  source : String
  path : String
  deriving DecidableEq, Repr

namespace JavaFile

open Regex Regex.Pattern

def packageLine : Pattern :=
  all [lit "package", blanks1, .group 1 (many1 (charIn ['.'] [.word])), char ';']

def importLine : Pattern :=
  all [lit "import", blanks1, optional (all [lit "static", blanks1]), .group 1 (many1 (charIn ['.', '*'] [.word])), char ';']

def keyword (s : String) : Pattern := all [lit s, blanks1]

def classLine : Pattern :=
  all [optional (oneOf [keyword "public", keyword "private", keyword "protected"]),
    optional (oneOf [keyword "abstract", keyword "final"]), lit "class", blanks1, .group 1 word]

def modifiers : Pattern :=
  many (oneOf [lit "public", lit "private", lit "protected", lit "static", blank])

def typeName : Pattern := many1 (charIn ['<', '>', '[', ']'] [.word])

def methodLine : Pattern :=
  all [modifiers, blanks, optional (all [typeName, blanks1]), .group 1 word, blanks, char '(', many (charNotIn [')']),
    char ')', blanks, optional (all [lit "throws", blanks1, many1 (charIn [','] [.word, .space])]), blanks, char '\x7b']

def variableLine : Pattern :=
  all [modifiers, blanks, .group 1 typeName, blanks1, .group 2 word, blanks, charIn ['=', ';'] []]

def plainClassLine : Pattern := all [blanks, lit "class", blanks1]

def packageOf (lines : List String) : String :=
  (lines.findSome? fun l => (packageLine.matchStart? (Text.trim l)).map (·.groupText 1)).getD ""

def importsOf (lines : List String) : List String :=
  lines.filterMap fun l => (importLine.matchStart? (Text.trim l)).map (·.groupText 1)

/-- A method starts on the line, unless its name is that of a class. -/
def methodAt? (classNames : List String) (n : Nat) (line : String) : Option Declared :=
  if (plainClassLine.matchStart? line).isSome then none
  else
    match methodLine.matchStart? (Text.trim line) with
    | some m => if classNames.contains (m.groupText 1) then none else some ⟨m.groupText 1, n⟩
    | none => none

def variableAt? (n : Nat) (line : String) : Option Declared :=
  (variableLine.matchStart? (Text.trim line)).map fun m => ⟨m.groupText 2, n⟩

def ofSource (path source : String) : JavaFile :=
  let lines := Text.lines source
  let classes := (numbered lines).filterMap fun (n, line, after) => Block.at? classLine (braceBalance line) n line after
  { package := packageOf lines
    imports := importsOf lines
    classes
    methods := (numbered lines).filterMap fun (n, line, _) => methodAt? (classes.map (·.name)) n line
    declared := (numbered lines).filterMap fun (n, line, _) => variableAt? n line
    source
    path }

def toValue (f : JavaFile) : Value :=
  .dict [("package", .str f.package), ("imports", .list (f.imports.map .str)),
    ("classes", .list (f.classes.map (·.toValue))), ("methods", .list (f.methods.map (·.toValue))),
    ("variables", .list (f.declared.map (·.toValue))), ("source_code", .str f.source), ("file_path", .str f.path)]

def summaryOf : Value → Except Fault Value := outlineSummary "java_file" ["classes", "methods", "variables"]

end JavaFile
end ThreatScan
