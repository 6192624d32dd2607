import ThreatScan.Regex.Search
import ThreatScan.Value.Basic
/-!
Numbered lines, the end of a block by counting braces, and the summary of an outline.
-/
namespace ThreatScan

structure Declared where
  name : String
  line : Nat
  deriving DecidableEq, Repr

structure Block where
  name : String
  startLine : Nat
  endLine : Nat
  deriving DecidableEq, Repr

def Declared.toValue (d : Declared) : Value := .dict [("name", .str d.name), ("line", .int d.line)]

def Block.toValue (b : Block) : Value :=
  .dict [("name", .str b.name), ("start_line", .int b.startLine), ("end_line", .int b.endLine),
    ("line", .int b.startLine)]

def braceBalance (line : String) : Int := (Text.count '\x7b' line : Int) - (Text.count '\x7d' line : Int)

/-- The number of the first line after which the balance is zero, given the balance before the lines and the number of
the first of them. -/
def closingLine? (balance : Int) (number : Nat) : List String → Option Nat
  | [] => none
  | line :: rest =>
    let balance := balance + braceBalance line
    if balance = 0 then some number else closingLine? balance (number + 1) rest

/-- The lines of a text with their numbers and the lines after them. -/
def numberedFrom (n : Nat) : List String → List (Nat × String × List String)
  | [] => []
  | line :: rest => (n, line, rest) :: numberedFrom (n + 1) rest

def numbered (lines : List String) : List (Nat × String × List String) := numberedFrom 1 lines

/-- A block starts on the line if the pattern finds a name there. With `opened` braces open behind the line, the block ends on the
first line where they are closed. -/
def Block.at? (p : Regex.Pattern) (opened : Int) (n : Nat) (line : String) (after : List String) : Option Block :=
  (p.matchStart? (Text.trim line)).map fun m => ⟨m.groupText 1, n, (closingLine? opened (n + 1) after).getD n⟩

/-- The summary of an outline given as a record, whose fields are passed on: `keys` are those of its lists. -/
def outlineSummary (type : String) (keys : List String) (outline : Value) : Except Fault Value := do
  let package ← outline.get "package" (.str "")
  let imports ← (← outline.get "imports" (.list [])).items
  let lists ← keys.mapM fun key => outline.get key (.list [])
  let source ← outline.get "source_code" (.str "")
  return .dict ([("type", .str type), ("package", package), ("imports", .list (imports.map fun i => .dict [("path", i)]))] ++
    keys.zip lists ++ [("source_code", source)])

end ThreatScan
