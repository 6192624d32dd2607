import ThreatScan.Clock
import ThreatScan.Value.Printer
/-!
The report of an analysis as a JSON document.
-/
namespace ThreatScan.Report

/-- The document on an analysis: when and by what it was made, and the results. -/
def json (now : Instant) (results : Value) : String :=
  (Value.dict
    [("report_metadata", .dict [("generated_at", .str now.isoText), ("tool", .str "OSS-Guardian"), ("version", .str "1.0")]),
     ("analysis_results", results)]).indented

end ThreatScan.Report
