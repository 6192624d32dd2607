import ThreatScan.Threat.Aggregate
import ThreatScan.Threat.Identify
import ThreatScan.Threat.Risk
/-!
What an analysis of a file gives, and the settings that it follows.
-/
namespace ThreatScan

structure Settings where
  static : Bool
  dynamic : Bool
  sandbox : Bool
  timeout : Value
  reportPath : Value
  rules : Value

/-- The settings in a configuration; what is not set is switched on. -/
def Settings.ofConfig (config : Value) : Except Fault Settings := do
  let settings ← config.get "settings" (.dict [])
  let rules ← config.get "rules" (.dict [])
  return { static := (← settings.get "enable_static_analysis" (.bool true)).truthy
           dynamic := (← settings.get "enable_dynamic_analysis" (.bool true)).truthy
           sandbox := (← settings.get "enable_sandbox" (.bool true)).truthy
           timeout := ← settings.get "timeout" (.int 30)
           reportPath := ← settings.get "report_path" (.str "data/reports/")
           rules }

/-- How an analysis ends: it comes to its end, it fails on the way, or the file has nothing to analyse. -/
inductive Ending where
  | complete
  | failed (message : String)
  | skipped
  deriving DecidableEq, Repr

/-- The result of an analysis; after a failure, what was found until then. -/
structure AnalysisResult where
  path : String
  language : String
  static : Value
  dynamic : Value
  aggregated : Option Aggregate
  threats : List Threat
  risk : Option Risk
  reports : List (String × String)
  ending : Ending
  /-- The file that the threats are marked with, in an analysis of many files. -/
  mark : Option String

namespace AnalysisResult

def start (path language : String) : AnalysisResult :=
  ⟨path, language, .dict [], .dict [], none, [], none, [], .complete, none⟩

def emptyReason : String := "empty or comment-only file"

def skip (path : String) : AnalysisResult := { start path "unknown" with ending := .skipped }

def threatValues (r : AnalysisResult) : List Value :=
  match r.mark with
  | some path => r.threats.map (Threat.tagged path)
  | none => r.threats.map Threat.toValue

def aggregatedValue (r : AnalysisResult) : Value := (r.aggregated.map Aggregate.toValue).getD (.dict [])

def riskValue (r : AnalysisResult) : Value := (r.risk.map Risk.toValue).getD (.dict [])

/-- The score of a result without an assessment is zero. -/
def score (r : AnalysisResult) : Nat := (r.risk.map Risk.score).getD 0

def endingFields : Ending → List (String × Value)
  | .complete => []
  | .failed message => [("error", .str message)]
  | .skipped => [("skipped", .bool true), ("reason", .str emptyReason)]

def toValue (r : AnalysisResult) : Value :=
  .dict ([("file_path", .str r.path), ("language", .str r.language), ("static_results", r.static),
    ("dynamic_results", r.dynamic), ("aggregated_results", r.aggregatedValue), ("threats", .list r.threatValues),
    ("risk_assessment", r.riskValue), ("reports", .dict (r.reports.map fun p => (p.1, .str p.2)))] ++
    endingFields r.ending)

end AnalysisResult
end ThreatScan
