import ThreatScan.Syntax.Tree
/-!
The full text of a tree: kinds with their parts in parentheses.

An absent part is left out, but an absent item of a list is written; identifiers are quoted.
-/
namespace ThreatScan.Tree

mutual

def dump : Tree → String
  | .node k _ parts => k ++ "(" ++ Text.join ", " (dumpParts parts) ++ ")"
  | .list ts => "[" ++ Text.join ", " (dumpItems ts) ++ "]"
  | .name s => Text.quote s
  | .number n => Value.displayInt n
  | .constant r => r
  | .absent => "None"

def dumpItems : List Tree → List String
  | [] => []
  | t :: ts => dump t :: dumpItems ts

def dumpParts : List (String × Tree) → List String
  | [] => []
  | (_, .absent) :: rest => dumpParts rest
  | (k, t) :: rest => (k ++ "=" ++ dump t) :: dumpParts rest

end

mutual

/-- A short text of an expression: names, attribute chains, constants and calls; any other expression in full. -/
def brief : Tree → String
  | .node k p parts =>
    if k = "Name" then (partOf "id" parts).text
    else if k = "Attribute" then briefPart "value" parts ++ "." ++ (partOf "attr" parts).text
    else if k = "Constant" then (partOf "value" parts).dump
    else if k = "Call" then briefPart "func" parts ++ "(...)"
    else dump (.node k p parts)
  | t => t.dump

def briefPart (key : String) : List (String × Tree) → String
  | [] => ""
  | (k, t) :: rest => if k = key then brief t else briefPart key rest

end

end ThreatScan.Tree
