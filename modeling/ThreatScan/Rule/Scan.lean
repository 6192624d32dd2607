import ThreatScan.Regex.Program
import ThreatScan.Value.Basic
/-!
Rules and the scan of a source text with them.

A rule is a search pattern with a name and a severity. Each rule is tried on each line of the text on its own; a rule
without a pattern, or whose pattern cannot be read, finds nothing, and one whose search breaks off finds nothing more. The
findings are ordered by line, and on one line by rule and place.
-/
namespace ThreatScan

/-- A detection rule. Its fields are passed on to its findings as they were written. -/
structure Rule where
  id : Value
  name : Value
  pattern : Value
  severity : Value
  description : Value

structure RuleMatch where
  rule : Rule
  line : Nat
  text : String
  context : String
  column : Nat

structure Found where
  start : Nat
  text : String
  deriving DecidableEq, Repr

/-- What the search through a line found, from left to right, and whether it broke off there. -/
structure LineScan where
  found : List Found
  broken : Bool
  deriving DecidableEq, Repr

/-- A search engine: for a pattern that it can read, what it finds in a line. -/
abbrev Engine := String → Option (String → LineScan)

def regexEngine : Engine := fun pattern =>
  (Regex.compile? pattern).map fun p line =>
    let all := p.findAll line
    ⟨all.matched.map fun m => ⟨m.start, m.textString⟩, all.broken⟩

namespace Rule

def ofValue (v : Value) : Except Fault Rule := do
  let id ← v.get "id" (.str "")
  let name ← v.get "name" (.str "")
  let pattern ← v.get "pattern" (.str "")
  let severity ← v.get "severity" (.str "medium")
  let description ← v.get "description" (.str "")
  return { id, name, pattern, severity, description }

/-- What an engine finds on a line with the pattern of a rule, if the rule has one that the engine can read. -/
def finder? (engine : Engine) (r : Rule) : Option (String → LineScan) :=
  match r.pattern with
  | .str s => if s.isEmpty then none else engine s
  | _ => none

/-- The lines around a line: one before it and two after it. -/
def contextOf (lines : List String) (line : Nat) : String :=
  Text.join "\n" ((lines.take (line + 2)).drop (line - 2))

def onLine (r : Rule) (lines : List String) (line : Nat) (found : List Found) : List RuleMatch :=
  found.map fun m => { rule := r, line, text := m.text, context := contextOf lines line, column := m.start }

/-- The findings of a rule on lines numbered from `first`, up to a line where the search breaks off. -/
def scanFrom (r : Rule) (find : String → LineScan) (lines : List String) (first : Nat) :
    List String → List RuleMatch
  | [] => []
  | text :: rest =>
    let scan := find text
    r.onLine lines first scan.found ++ (if scan.broken then [] else r.scanFrom find lines (first + 1) rest)

def scan (engine : Engine) (r : Rule) (lines : List String) : List RuleMatch :=
  match r.finder? engine with
  | some find => r.scanFrom find lines 1 lines
  | none => []

def scanAll (engine : Engine) (rules : List Rule) (source : String) : List RuleMatch :=
  (rules.flatMap fun r => r.scan engine (Text.lines source)).mergeSort fun a b => decide (a.line ≤ b.line)

/-- Scans a value that should be a text with a value that should be a list of rules. An empty text or no rules give no
findings. -/
def scanValue (source rules : Value) : Except Fault (List RuleMatch) :=
  if !source.truthy || !rules.truthy then .ok []
  else do
    let text ← source.text "split"
    let rules ← (← rules.items).mapM ofValue
    return scanAll regexEngine rules text

/-- The rules of a rule file; none unless it is a record with a list of rules. -/
def listOf (data : Value) : List Value :=
  match data.field? "rules" with
  | some (.list rules) => rules
  | _ => []

/-- The rule is meant for the language: it names it, or all, or none in particular. A rule that says nothing is for
Python. -/
def isFor (language : String) (rule : Value) : Except Fault Bool := do
  let l ← rule.get "language" (.str "python")
  return Value.same l (.str language) || Value.same l (.str "all") || Value.same l (.str "")

def selectFor (language : String) : List Value → Except Fault (List Value)
  | [] => .ok []
  | r :: rest => do
    let keep ← isFor language r
    let rest ← selectFor language rest
    return if keep then r :: rest else rest

end Rule

def RuleMatch.toValue (m : RuleMatch) : Value :=
  .dict [("rule_id", m.rule.id), ("rule_name", m.rule.name), ("severity", m.rule.severity), ("line", .int m.line),
    ("matched_text", .str m.text), ("description", m.rule.description), ("context", .str m.context),
    ("col_offset", .int m.column)]

end ThreatScan
