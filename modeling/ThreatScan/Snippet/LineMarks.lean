import ThreatScan.Text.Integer
import ThreatScan.Value.Basic
/-!
The lines of a source that threats point to.

A threat lists line numbers, and each of them that is a positive number marks that line with the kind and the severity of
the threat. Lines stand in the order in which they were first marked, the marks of a line in the order of the threats.
-/
namespace ThreatScan.Snippet

structure Mark where
  kind : Value
  severity : Value

def Mark.toValue (m : Mark) : Value := .dict [("type", m.kind), ("severity", m.severity)]

abbrev LineMarks := List (Int × List Mark)

namespace LineMarks

def get? : LineMarks → Int → Option (List Mark)
  | [], _ => none
  | (k, ms) :: rest, line => if k = line then some ms else get? rest line

def add (line : Int) (m : Mark) : LineMarks → LineMarks
  | [] => [(line, [m])]
  | (k, ms) :: rest => if k = line then (k, ms ++ [m]) :: rest else (k, ms) :: add line m rest

def lines (marks : LineMarks) : List Int := marks.map Prod.fst

end LineMarks

/-- The line number that a value stands for, if it stands for one. -/
def lineNumber? : Value → Except Fault (Option Int)
  | .int n => .ok (some n)
  | .bool b => .ok (some (if b then 1 else 0))
  | .float (.infinite _) => .error .infinite
  | .float x => .ok x.truncate?
  | .str s => .ok (Text.integer? s)
  | _ => .ok none

def markLines (m : Mark) (numbers : List Value) (marks : LineMarks) : Except Fault LineMarks :=
  numbers.foldlM (fun marks v => do
    match ← lineNumber? v with
    | some n => return if 0 < n then marks.add n m else marks
    | none => return marks) marks

def numbersOf (threat : Value) : Except Fault (List Value) := do
  let numbers ← threat.get "line_numbers" (.list [])
  if numbers.truthy then numbers.items else return []

def markThreat (marks : LineMarks) (threat : Value) : Except Fault LineMarks := do
  let severity ← threat.get "severity" (.str "medium")
  let kind ← threat.get "threat_type" (.str "未知")
  markLines ⟨kind, severity⟩ (← numbersOf threat) marks

def LineMarks.ofThreats (threats : List Value) : Except Fault LineMarks := threats.foldlM markThreat []

end ThreatScan.Snippet
