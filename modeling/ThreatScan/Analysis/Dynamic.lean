import ThreatScan.Analysis.Static
import ThreatScan.Sandbox.Fuzz
/-!
The dynamic analysis of a source file: a run in the sandbox and a series of runs on hostile arguments.
-/
namespace ThreatScan.Analysis

def dynamicRecord (syscalls activities fuzz : List Value) (log : String) (more : List (String × Value)) : Value :=
  .dict ([("syscalls", .list syscalls), ("network_activities", .list activities), ("fuzz_results", .list fuzz),
    ("execution_log", .str log)] ++ more)

def syscallEntries (entries : List String) : List Value :=
  (entries.filter fun e => Text.contains e "[ALERT] SYSCALL:" || Text.contains e "[ALERT] NETWORK:").map fun e =>
    .str (Text.trim e)

/-- The smaller of a time limit and ten seconds. -/
def shortLimit (timeout : Value) : Except Fault Value := do
  return if ← (Value.int 10).lessThan "<" timeout then .int 10 else timeout

def sandboxResults (s : Settings) (path : String) : Act Value := do
  let result ← Sandbox.run path [] s.timeout none
  let activities ← Act.valid (NetworkLog.read (← get).disk result.logFile)
  let limit ← Act.valid (shortLimit s.timeout)
  let fuzz ← Fuzz.run path 3 limit
  return dynamicRecord (syscallEntries result.logEntries) (activities.map NetworkActivity.toValue)
    (fuzz.map FuzzResult.toValue) result.logFile [("sandbox_result", result.toValue)]

/-- The dynamic results of a file; only Python programs are run. -/
def dynamicResults (s : Settings) (path language : String) : Act Value := do
  if !s.dynamic then return dynamicRecord [] [] [] "" []
  if language != "python" then
    say ("[INFO] Dynamic analysis not yet supported for " ++ language ++ ", skipping...")
    return dynamicRecord [] [] [] "" [("note", .str ("Dynamic analysis not yet implemented for " ++ language))]
  say "[INFO] Performing dynamic analysis..."
  if s.sandbox then sandboxResults s path
  else return dynamicRecord [] [] [] "" [("note", .str "Sandbox disabled by user; dynamic analysis skipped.")]

end ThreatScan.Analysis
