import ThreatScan.Threat.Severity
import ThreatScan.Value.Display
/-!
The results of the static and the dynamic analysis of a file put together, with a tally of what was found.
-/
namespace ThreatScan

structure Aggregate where
  patternMatches : Value
  taintFlows : Value
  flowStructures : Value
  syntaxValid : Value
  symbols : Value
  syscalls : Value
  networkActivities : Value
  fuzzResults : Value
  executionLog : Value
  tally : Tally

namespace Aggregate

def noDynamic : Value :=
  .dict [("syscalls", .list []), ("network_activities", .list []), ("fuzz_results", .list []), ("execution_log", .str "")]

/-- How grave a logged system call is: starting programs is critical, opening sockets medium; others do not count. -/
def syscallSeverity (entry : Value) : Option Severity :=
  let text := entry.display
  if Text.contains text "os.system" || Text.contains text "subprocess" then some .critical
  else if Text.contains text "socket" then some .medium
  else none

def addSyscall (t : Tally) (entry : Value) : Tally :=
  match syscallSeverity entry with
  | some s => t.add s 1
  | none => t

/-- A crash under random input counts as high. -/
def addFuzz (t : Tally) (result : Value) : Except Fault Tally := do
  return if (← result.get "crashed" (.bool false)).truthy then t.add .high 1 else t

/-- The tally of all findings: pattern matches by their own severity, every taint flow as critical, and every network
activity as medium. -/
def tallyOf (matches' flows syscalls activities fuzz : Value) : Except Fault Tally := do
  let t ← Tally.ofFindings (← matches'.items)
  let t := t.add .critical (← flows.length)
  let t := (← syscalls.items).foldl addSyscall t
  let t := t.add .medium (← activities.length)
  (← fuzz.items).foldlM addFuzz t

def ofResults (static dynamic : Value) : Except Fault Aggregate := do
  let dynamic := if dynamic.kind = .null then noDynamic else dynamic
  let patternMatches ← static.get "pattern_matches" (.list [])
  let taintFlows ← static.get "taint_flows" (.list [])
  let flowStructures ← static.get "cfg_structures" (.list [])
  let syntaxValid ← static.get "syntax_valid" (.bool true)
  let symbols ← static.get "symbols" (.dict [])
  let syscalls ← dynamic.get "syscalls" (.list [])
  let networkActivities ← dynamic.get "network_activities" (.list [])
  let fuzzResults ← dynamic.get "fuzz_results" (.list [])
  let executionLog ← dynamic.get "execution_log" (.str "")
  let tally ← tallyOf patternMatches taintFlows syscalls networkActivities fuzzResults
  return { patternMatches, taintFlows, flowStructures, syntaxValid, symbols, syscalls, networkActivities, fuzzResults,
           executionLog, tally }

def summary (t : Tally) : Value :=
  .dict [("total_threats", .int t.total), ("critical_count", .int t.critical), ("high_count", .int t.high),
    ("medium_count", .int t.medium), ("low_count", .int t.low)]

def toValue (a : Aggregate) : Value :=
  .dict
    [("static", .dict [("pattern_matches", a.patternMatches), ("taint_flows", a.taintFlows),
        ("cfg_structures", a.flowStructures), ("syntax_valid", a.syntaxValid), ("symbols", a.symbols)]),
     ("dynamic", .dict [("syscalls", a.syscalls), ("network_activities", a.networkActivities),
        ("fuzz_results", a.fuzzResults), ("execution_log", a.executionLog)]),
     ("summary", summary a.tally)]

end Aggregate
end ThreatScan
