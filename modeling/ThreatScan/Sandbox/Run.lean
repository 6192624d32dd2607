import ThreatScan.Sandbox.Script
/-!
Running a program in a sandbox: its calls are logged, its time is limited, and the script that ran it is removed.
-/
namespace ThreatScan

structure SandboxResult where
  code : Int
  output : String
  errors : String
  elapsed : Value
  logFile : String
  logEntries : List String
  timedOut : Bool

namespace SandboxResult

def toValue (r : SandboxResult) : Value :=
  .dict [("return_code", .int r.code), ("stdout", .str r.output), ("stderr", .str r.errors), ("execution_time", r.elapsed),
    ("log_file", .str r.logFile), ("log_entries", .list (r.logEntries.map .str)), ("timed_out", .bool r.timedOut)]

end SandboxResult

namespace Sandbox

/-- The log file of a run for which none is named. -/
def defaultLog (now : Instant) : String := Path.work ++ "/data/logs/sandbox_" ++ now.fineStamp ++ ".log"

def logHead (now : Instant) (target : String) (args : List String) (timeout : Value) : String :=
  "[INFO] Sandbox execution started at " ++ now.text ++ "\n" ++
  "[INFO] Target file: " ++ target ++ "\n" ++
  "[INFO] Arguments: " ++ (Value.list (args.map .str)).display ++ "\n" ++
  "[INFO] Timeout: " ++ timeout.display ++ "s\n\n"

def touchLog (run : ChildRun) (log : String) (d : Disk) : Disk :=
  let d := match d.append log (String.join (run.log.map (· ++ "\n"))) with
    | .ok d => d
    | .error _ => d
  if run.dropsLog then
    match d.remove log with
    | .ok d => d
    | .error _ => d
  else d

/-- The lines of the log, or one line that says why there are none. -/
def readLog (d : Disk) (log : String) : List String :=
  match d.readText log with
  | .ok text => Text.endedLines text
  | .error e => ["[ERROR] Failed to read log file: " ++ e.message ++ "\n"]

/-- Runs the child process. A run that exceeds its time has the time limit as its duration. -/
def runChild (log : String) (timeout : Value) : Act SandboxResult := do
  let run ← Act.always Host.nextRun
  modify fun h => { h with disk := touchLog run log h.disk }
  match run.failure with
  | some reason => Act.fail (.notStarted reason)
  | none =>
    let entries := readLog (← get).disk log
    if run.timedOut then
      return ⟨-1, "", "Execution timed out after " ++ timeout.display ++ " seconds", timeout, log, entries, true⟩
    return ⟨run.code, run.output, run.errors, .float run.elapsed, log, entries, false⟩

def cleanUp (script : String) : StateM Host Unit := do
  if (← get).disk.has script then
    let _ ← Host.remove script

/-- Runs a program in the sandbox. The script is removed whether the run fails or not. -/
def run (target : String) (args : List String) (timeout : Value) (log : Option String) : Act SandboxResult := do
  let now := (← get).now
  let log := log.getD (defaultLog now)
  Host.makeDirs (Path.dirName log)
  Host.writeText log (logHead now target args timeout)
  let script ← writeScript target log args
  let result ← Act.always (Act.attempt (runChild log timeout))
  Act.always (cleanUp script)
  Act.check id result

end Sandbox
end ThreatScan
