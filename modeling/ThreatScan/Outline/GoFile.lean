import ThreatScan.Outline.Braces
import ThreatScan.Regex.Build
/-!
The outline of a Go file: its package, imports, functions and variables, line by line.
-/
namespace ThreatScan

structure GoFile where
  package : String
  imports : List String
  functions : List Block
  declared : List Declared
  source : String
  path : String
  deriving DecidableEq, Repr

namespace GoFile

open Regex Regex.Pattern

def packageLine : Pattern := all [lit "package", blanks1, .group 1 word]

def quoted : Pattern := all [char '"', .group 1 (many1 (charNotIn ['"'])), char '"']

def importLine : Pattern := all [lit "import", blanks1, char '"', many1 (charNotIn ['"']), char '"']

def parenthesised : Pattern := all [char '(', many (charNotIn [')']), char ')']

/-- A function with its parameters, results in parentheses or a single one, and an opening brace. -/
def functionLine : Pattern :=
  all [lit "func", blanks1, .group 1 word, blanks, parenthesised, blanks, optional parenthesised, blanks, optional word,
    blanks, char '\x7b']

def variableLine : Pattern :=
  oneOf [all [lit "var", blanks1, .group 1 word, blanks1], all [.group 1 word, blanks, lit ":=", blanks]]

def packageOf (lines : List String) : String :=
  (lines.findSome? fun l => (packageLine.matchStart? (Text.trim l)).map (·.groupText 1)).getD ""

def quotedIn? (s : String) : Option String := (quoted.find? s).map (·.groupText 1)

def importsOnLine (s : String) : List String :=
  if (importLine.matchStart? s).isSome then (quotedIn? s).toList else []

/-- The imports, in order. A block of imports counts when its closing parenthesis is met; `block` holds its lines, and is
none outside a block. -/
def importsFrom (block : Option (List String)) : List String → List String
  | [] => []
  | line :: rest =>
    let s := Text.trim line
    importsOnLine s ++
      if s == "import (" then importsFrom (some (block.getD [])) rest
      else
        match block with
        | none => importsFrom none rest
        | some ls =>
          if s == ")" then ls.filterMap quotedIn? ++ importsFrom none rest else importsFrom (some (ls ++ [s])) rest

def variableAt? (n : Nat) (line : String) : Option Declared :=
  (variableLine.matchStart? (Text.trim line)).map fun m => ⟨m.groupText 1, n⟩

def ofSource (path source : String) : GoFile :=
  let lines := Text.lines source
  { package := packageOf lines
    imports := importsFrom none lines
    functions := (numbered lines).filterMap fun (n, line, after) => Block.at? functionLine 1 n line after
    declared := (numbered lines).filterMap fun (n, line, _) => variableAt? n line
    source
    path }

def toValue (f : GoFile) : Value :=
  .dict [("package", .str f.package), ("imports", .list (f.imports.map .str)),
    ("functions", .list (f.functions.map (·.toValue))), ("variables", .list (f.declared.map (·.toValue))),
    ("source_code", .str f.source), ("file_path", .str f.path)]

def summaryOf : Value → Except Fault Value := outlineSummary "go_file" ["functions", "variables"]

end GoFile
end ThreatScan
