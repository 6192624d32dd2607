import ThreatScan.Host.Basic
/-!
The configuration of the scanner: settings and rules, from a directory of two files.
-/
namespace ThreatScan

/-- The settings used where there is no settings file. -/
def defaultSettings : Value :=
  .dict [("timeout", .int 30), ("log_path", .str "data/logs/"), ("report_path", .str "data/reports/"),
    ("enable_dynamic_analysis", .bool true), ("enable_static_analysis", .bool true), ("enable_sandbox", .bool true)]

def noRules : Value := .dict [("rules", .list [])]

namespace Host

def loadValue (path : String) (default : Value) : Act Value := do
  if (← get).disk.has path then
    let text ← readText path
    Act.check Failure.settings ((← get).loader text)
  else return default

def loadConfig (dir : String) : Act Value := do
  let settings ← loadValue (Path.join dir "settings.yaml") defaultSettings
  let rules ← loadValue (Path.join dir "rules.yaml") noRules
  return .dict [("settings", settings), ("rules", rules)]

end Host
end ThreatScan
