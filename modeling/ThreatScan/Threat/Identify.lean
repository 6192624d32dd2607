import ThreatScan.Text.Integer
import ThreatScan.Threat.Severity
import ThreatScan.Value.Display
/-!
Threats: what the findings of an analysis amount to.

There are eight kinds of threat. Each is supported by the findings of its own sort, in the order in which they were made;
a kind without support is not reported.
-/
namespace ThreatScan

inductive ThreatKind where
  | remoteExecution | commandInjection | webShell | backdoor | sqlInjection | exfiltration | fileRisk | crash
  deriving DecidableEq, Repr

namespace ThreatKind

def all : List ThreatKind :=
  [.remoteExecution, .commandInjection, .webShell, .backdoor, .sqlInjection, .exfiltration, .fileRisk, .crash]

def name : ThreatKind → String
  | .remoteExecution => "RCE"
  | .commandInjection => "Command Injection"
  | .webShell => "WebShell"
  | .backdoor => "Backdoor"
  | .sqlInjection => "SQL Injection"
  | .exfiltration => "Network Exfiltration"
  | .fileRisk => "File Operation Risk"
  | .crash => "Runtime Vulnerability"

def severity : ThreatKind → Severity
  | .remoteExecution => .critical
  | .commandInjection => .critical
  | .webShell => .critical
  | .backdoor => .high
  | .sqlInjection => .high
  | .exfiltration => .medium
  | .fileRisk => .medium
  | .crash => .high

def description : ThreatKind → String
  | .remoteExecution => "Remote code execution detected via os.system/subprocess calls"
  | .commandInjection =>
    "Command injection detected: user input (sys.argv) flows to os.system without sanitization"
  | .webShell => "WebShell detected: usage of eval/exec/__import__/compile functions"
  | .backdoor => "Backdoor detected: hardcoded passwords, secret keys, or obfuscated code"
  | .sqlInjection => "SQL injection vulnerability detected: unsafe string concatenation in SQL queries"
  | .exfiltration => "Network connection activity detected: potential data exfiltration"
  | .fileRisk => "Risky file operations detected: path traversal or sensitive file access"
  | .crash =>
    "Runtime crashes detected during fuzzing: potential buffer overflow or exception handling issues"

end ThreatKind

/-- A finding that supports a threat, and the line that it points at, if any. -/
structure Clue where
  evidence : Value
  line : Option Value

structure Threat where
  kind : ThreatKind
  evidence : List Value
  lines : List Value

namespace Threat

def toValue (t : Threat) : Value :=
  .dict [("threat_type", .str t.kind.name), ("severity", .str t.kind.severity.name),
    ("description", .str t.kind.description), ("evidence", .list t.evidence), ("line_numbers", .list t.lines)]

def tagged (path : String) (t : Threat) : Value :=
  match t.toValue with
  | .dict fields => .dict (Value.setField "source_file" (.str path) fields)
  | v => v

/-! Lines. -/

def isPositive (line : Value) : Except Fault Bool :=
  if line.isNumber then .ok (line.compareNumbers? (.int 0) == some .gt)
  else .error (.notOrdered ">" line.kind .int)

/-- Puts a number into an increasing list, unless an equal one is there. -/
def insertLine (line : Value) : List Value → List Value
  | [] => [line]
  | l :: rest =>
    match line.compareNumbers? l with
    | some .lt => line :: l :: rest
    | some .eq => l :: rest
    | _ => l :: insertLine line rest

/-- The positive lines, increasing and each once. -/
def sortedLines (lines : List Value) : Except Fault (List Value) := do
  return (← lines.filterM isPositive).foldl (fun acc l => insertLine l acc) []

def ofClues (kind : ThreatKind) (clues : List Clue) : Except Fault (Option Threat) := do
  if clues.isEmpty then return none
  return some ⟨kind, clues.map (·.evidence), ← sortedLines (clues.filterMap (·.line))⟩

/-! Clues. -/

def cluesIn (findings : Value) (clue? : Value → Except Fault (Option Clue)) : Except Fault (List Clue) := do
  return (← (← findings.items).mapM clue?).filterMap id

def clueAt (finding : Value) (key : String) : Except Fault Clue := do
  return ⟨finding, some (← finding.get key (.int 0))⟩

def ruleClue (mark : String) (found : Value) : Except Fault (Option Clue) := do
  if ← (← found.get "rule_id" (.str "")).holds mark then return some (← clueAt found "line") else return none

def executionMatch (found : Value) : Except Fault (Option Clue) := do
  let byRule ← (← found.get "rule_id" (.str "")).holds "rce_"
  let chosen ← if byRule then pure true else (← found.get "matched_text" (.str "")).holds "os.system"
  if chosen then return some (← clueAt found "line") else return none

def executionFlow (flow : Value) : Except Fault (Option Clue) := do
  let sink ← (← flow.get "sink" (.str "")).text "startswith"
  if Text.startsWith sink "os.system" || Text.contains sink "subprocess" then return some (← clueAt flow "sink_line")
  else return none

def startsProgram (text : String) : Bool := Text.contains text "os.system" || Text.contains text "subprocess"

/-- A logged call that starts a program; a line of the log is wrapped into a record. -/
def executionCall (entry : Value) : Except Fault (Option Clue) :=
  match entry with
  | .dict fields =>
    return if startsProgram (Value.dict fields).display then some ⟨.dict fields, none⟩ else none
  | .str line => return if startsProgram line then some ⟨.dict [("log_entry", .str line)], none⟩ else none
  | _ => return none

def injectionFlow (flow : Value) : Except Fault (Option Clue) := do
  let source ← (← flow.get "source" (.str "")).text "startswith"
  if !Text.startsWith source "sys.argv" then return none
  let sink ← (← flow.get "sink" (.str "")).text "startswith"
  if Text.startsWith sink "os.system" then return some (← clueAt flow "sink_line") else return none

/-- The digits of the first number between two colons. -/
def numberMark? : List Char → Option (List Char)
  | [] => none
  | c :: rest =>
    let digits := rest.takeWhile Text.isDecimalDigit
    if c == ':' && !digits.isEmpty && [':'].isPrefixOf (rest.drop digits.length) then some digits
    else numberMark? rest

def markedLine (line : List Char) : Except Fault (Option Value) :=
  match numberMark? line with
  | none => .ok none
  | some digits =>
    match Text.number? digits with
    | some n => .ok (some (.int n))
    | none => .error (.tooManyDigits digits.length)

/-- Any network activity; its line is the first number between colons in its log line. -/
def activityClue (activity : Value) : Except Fault (Option Clue) :=
  match activity.field? "line" with
  | none => return some ⟨activity, none⟩
  | some (.str line) => do return some ⟨activity, ← markedLine line.toList⟩
  | some v => .error (.notText v.kind)

def crashClue (result : Value) : Except Fault (Option Clue) := do
  return if (← result.get "crashed" (.bool false)).truthy then some ⟨result, none⟩ else none

structure Findings where
  patternMatches : Value
  taintFlows : Value
  networkActivities : Value
  syscalls : Value
  fuzzResults : Value

def Findings.ofAggregated (aggregated : Value) : Except Fault Findings := do
  let static ← aggregated.get "static" (.dict [])
  let dynamic ← aggregated.get "dynamic" (.dict [])
  return { patternMatches := ← static.get "pattern_matches" (.list [])
           taintFlows := ← static.get "taint_flows" (.list [])
           networkActivities := ← dynamic.get "network_activities" (.list [])
           syscalls := ← dynamic.get "syscalls" (.list [])
           fuzzResults := ← dynamic.get "fuzz_results" (.list []) }

def clues (f : Findings) : ThreatKind → Except Fault (List Clue)
  | .remoteExecution => do
    let found ← cluesIn f.patternMatches executionMatch
    let flows ← cluesIn f.taintFlows executionFlow
    let calls ← cluesIn f.syscalls executionCall
    return found ++ flows ++ calls
  | .commandInjection => cluesIn f.taintFlows injectionFlow
  | .webShell => cluesIn f.patternMatches (ruleClue "webshell_")
  | .backdoor => cluesIn f.patternMatches (ruleClue "backdoor_")
  | .sqlInjection => cluesIn f.patternMatches (ruleClue "sql_injection")
  | .exfiltration => cluesIn f.networkActivities activityClue
  | .fileRisk => cluesIn f.patternMatches (ruleClue "file_")
  | .crash => cluesIn f.fuzzResults crashClue

def ofKind (f : Findings) (kind : ThreatKind) : Except Fault (Option Threat) := do
  ofClues kind (← clues f kind)

def identify (aggregated : Value) : Except Fault (List Threat) := do
  let f ← Findings.ofAggregated aggregated
  return (← ThreatKind.all.mapM (ofKind f)).filterMap id

end Threat
end ThreatScan
