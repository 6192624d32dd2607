import ThreatScan.Clock
import ThreatScan.Report.Wording
import ThreatScan.Value.Printer
/-!
The report of an analysis as a web page.
-/
namespace ThreatScan.Report

def pageStyle : List (String × List String) :=
  [("body", ["font-family: \"Microsoft YaHei\", \"SimHei\", Arial, sans-serif", "margin: 20px", "background-color: #F0F4F8"]),
   (".container", ["max-width: 1200px", "margin: 0 auto", "background-color: white", "padding: 30px", "border-radius: 8px",
     "box-shadow: 0 2px 8px rgba(74, 144, 164, 0.15)"]),
   ("h1", ["color: #2C3E50", "border-bottom: 3px solid #4A90A4", "padding-bottom: 10px"]),
   ("h2", ["color: #34495E", "margin-top: 30px"]),
   (".risk-score", ["text-align: center", "padding: 30px", "margin: 20px 0",
     "background: linear-gradient(135deg, #4A90A4 0%, #6B9BD1 100%)", "color: white", "border-radius: 8px",
     "font-size: 48px", "font-weight: bold", "box-shadow: 0 4px 6px rgba(74, 144, 164, 0.2)"]),
   (".risk-level", ["font-size: 24px", "margin-top: 10px"]),
   (".summary", ["display: grid", "grid-template-columns: repeat(auto-fit, minmax(200px, 1fr))", "gap: 15px",
     "margin: 20px 0"]),
   (".summary-card", ["background-color: #F8FBFC", "padding: 15px", "border-radius: 5px", "border-left: 4px solid #4A90A4",
     "box-shadow: 0 2px 4px rgba(74, 144, 164, 0.1)"]),
   (".summary-card h3", ["margin: 0 0 10px 0", "color: #2C3E50"]),
   (".summary-card .value", ["font-size: 32px", "font-weight: bold", "color: #4A90A4"]),
   ("table", ["width: 100%", "border-collapse: collapse", "margin: 20px 0", "border: 1px solid #B8D4E3",
     "border-radius: 6px", "overflow: hidden"]),
   ("th, td", ["padding: 12px", "text-align: left", "border-bottom: 1px solid #B8D4E3"]),
   ("th", ["background-color: #4A90A4", "color: white"]),
   ("tr:hover", ["background-color: #F0F4F8"]),
   (".severity-critical", ["color: #E74C3C", "font-weight: bold", "background-color: #FDE8E8", "padding: 4px 8px",
     "border-radius: 4px"]),
   (".severity-high", ["color: #E67E22", "font-weight: bold", "background-color: #FDF0E8", "padding: 4px 8px",
     "border-radius: 4px"]),
   (".severity-medium", ["color: #F39C12", "background-color: #FEF5E7", "padding: 4px 8px", "border-radius: 4px"]),
   (".severity-low", ["color: #27AE60", "background-color: #E8F8F0", "padding: 4px 8px", "border-radius: 4px"]),
   (".evidence", ["background-color: #F8FBFC", "padding: 10px", "margin: 5px 0", "border-radius: 4px",
     "font-family: \"Consolas\", \"Monaco\", monospace", "font-size: 12px", "border-left: 3px solid #6B9BD1"]),
   (".timestamp", ["color: #6c757d", "font-size: 12px", "margin-top: 20px", "text-align: center"])]

def styleRule (selector : String) (style : List String) : List String :=
  ("        " ++ selector ++ " \x7b") :: (style.map ("            " ++ · ++ ";") ++ ["        \x7d"])

def pageHead : List String :=
  ["<!DOCTYPE html>",
   "<html lang=\"zh-CN\">",
   "<head>",
   "    <meta charset=\"UTF-8\">",
   "    <meta name=\"viewport\" content=\"width=device-width, initial-scale=1.0\">",
   "    <title>OSS-Guardian 安全分析报告</title>",
   "    <style>"] ++
  pageStyle.flatMap (fun (selector, style) => styleRule selector style) ++
  ["    </style>", "</head>"]

def card (title style value : String) : List String :=
  ["            <div class=\"summary-card\">",
   "                <h3>" ++ title ++ "</h3>",
   "                <div class=\"value\"" ++ style ++ ">" ++ value ++ "</div>",
   "            </div>"]

def overviewLines (o : Overview) : List String :=
  ["<body>",
   "    <div class=\"container\">",
   "        <h1>🛡️ OSS-Guardian 安全分析报告</h1>",
   "        ",
   "        <div class=\"risk-score\">",
   "            风险分数：" ++ o.score ++ "/100",
   "            <div class=\"risk-level\">风险等级：" ++ o.level ++ "</div>",
   "        </div>",
   "        ",
   "        <div class=\"summary\">"] ++
  card "威胁总数" "" o.count ++
  card "严重" " style=\"color: #E74C3C;\"" o.critical ++
  card "高危" " style=\"color: #E67E22;\"" o.high ++
  card "中危" " style=\"color: #F39C12;\"" o.medium ++
  card "低危" " style=\"color: #27AE60;\"" o.low ++
  ["        </div>",
   "        "]

def tableHead : List String :=
  ["        <h2>已识别的威胁</h2>",
   "        <table>",
   "            <thead>",
   "                <tr>",
   "                    <th>威胁类型</th>",
   "                    <th>严重程度</th>",
   "                    <th>描述</th>",
   "                    <th>行号</th>",
   "                </tr>",
   "            </thead>",
   "            <tbody>",
   ""]

def tableRow (r : ThreatRow) : String :=
  Text.join "\n"
    ["",
     "                <tr>",
     "                    <td><strong>" ++ r.kind ++ "</strong></td>",
     "                    <td class=\"severity-" ++ r.severity ++ "\">" ++ severityWord r.severity ++ "</td>",
     "                    <td>" ++ r.description ++ "</td>",
     "                    <td>" ++ r.lines ++ "</td>",
     "                </tr>",
     ""]

def tableFoot : String :=
  Text.join "\n" ["", "            </tbody>", "        </table>", "        ", "        <h2>详细证据</h2>", ""]

def evidenceItem (e : Value) : String := "<div>" ++ e.indented ++ "</div><br>"

def evidenceBlock (number : Nat) (threat : Value) : Except Fault String := do
  let kind ← threat.get "threat_type" (.str "未知")
  let shown ← firstItems 5 (← threat.get "evidence" (.list []))
  return Text.join "\n" ["", "        <h3>" ++ toString number ++ ". " ++ kind.display ++ "</h3>",
      "        <div class=\"evidence\">", ""] ++
    String.join (shown.map evidenceItem) ++ Text.join "\n" ["", "        </div>", ""]

def pageFoot (now : Instant) : String :=
  Text.join "\n" ["", "        <div class=\"timestamp\">", "            报告生成时间：" ++ now.reportText, "        </div>",
    "    </div>", "</body>", "</html>", ""]

def evidenceBlocks (n : Nat) : List Value → Except Fault (List String)
  | [] => .ok []
  | t :: rest => do return (← evidenceBlock n t) :: (← evidenceBlocks (n + 1) rest)

def html (now : Instant) (results : Value) : Except Fault String := do
  let threats ← results.get "threats" (.list [])
  let risk ← results.get "risk_assessment" (.dict [])
  let _ ← results.get "aggregated_results" (.dict [])
  (← risk.get "risk_level" (.str "low")).hashable
  let overview ← Overview.ofRisk risk
  let listed ← threats.items
  let rows ← listed.mapM ThreatRow.ofThreat
  let blocks ← evidenceBlocks 1 listed
  return Text.join "\n" (pageHead ++ overviewLines overview ++ tableHead) ++ String.join (rows.map tableRow) ++ tableFoot ++
    String.join blocks ++ pageFoot now

end ThreatScan.Report
