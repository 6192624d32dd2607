import ThreatScan.Text.Case
import ThreatScan.Value.Display
/-!
What the written reports have in common: the words for severities and levels, and the parts of a threat.
-/
namespace ThreatScan.Report

def levelWord (level : String) : String :=
  match level with
  | "low" => "低"
  | "medium" => "中"
  | "high" => "高"
  | "critical" => "严重"
  | other => Text.upper other

def severityWord (severity : String) : String :=
  match severity with
  | "critical" => "严重"
  | "high" => "高危"
  | "medium" => "中危"
  | "low" => "低危"
  | other => Text.upper other

def activityWord (kind : Value) : String :=
  match kind with
  | .str "connect" => "连接"
  | .str "bind" => "绑定"
  | other => other.display

def lineList (lines : Value) : Except Fault String := do
  if !lines.truthy then return "N/A"
  return Text.join ", " ((← lines.items).map Value.display)

/-- The first items of a list, or the first characters of a text. -/
def firstItems (n : Nat) (v : Value) : Except Fault (List Value) :=
  match v with
  | .dict _ => .error (.misuse "unhashable type: 'slice'")
  | .list xs => .ok (xs.take n)
  | .tuple xs => .ok (xs.take n)
  | .str s => .ok ((s.toList.take n).map fun c => .str (String.singleton c))
  | v => .error (.notIndexable v.kind)

structure ThreatRow where
  kind : String
  severity : String
  description : String
  lines : String

def ThreatRow.ofThreat (threat : Value) : Except Fault ThreatRow := do
  let kind ← threat.get "threat_type" (.str "未知")
  let severity ← threat.get "severity" (.str "medium")
  let description ← threat.get "description" (.str "")
  let lines ← lineList (← threat.get "line_numbers" (.list []))
  return ⟨kind.display, ← severity.text "upper", description.display, lines⟩

structure Overview where
  score : String
  level : String
  count : String
  critical : String
  high : String
  medium : String
  low : String

def Overview.ofRisk (risk : Value) : Except Fault Overview := do
  let score ← risk.get "risk_score" (.int 0)
  let level ← risk.get "risk_level" (.str "low")
  let count ← risk.get "threat_count" (.int 0)
  let breakdown ← risk.get "breakdown" (.dict [])
  return { score := score.display
           level := levelWord (← level.text "upper")
           count := count.display
           critical := (← breakdown.get "critical" (.int 0)).display
           high := (← breakdown.get "high" (.int 0)).display
           medium := (← breakdown.get "medium" (.int 0)).display
           low := (← breakdown.get "low" (.int 0)).display }

end ThreatScan.Report
