import ThreatScan.Clock
import ThreatScan.Report.Wording
import ThreatScan.Value.Printer
/-!
The report of an analysis in Markdown.
-/
namespace ThreatScan.Report

def block (lines : List String) : String := String.join (lines.map (· ++ "\n"))

def markdownHead (now : Instant) (file : String) (o : Overview) : String :=
  block
    ["# 🛡️ OSS-Guardian 安全分析报告", "",
     "## 报告信息", "",
     "- **分析文件：** " ++ file,
     "- **生成时间：** " ++ now.reportText,
     "- **工具版本：** OSS-Guardian v1.0", "",
     "---", "",
     "## 📊 风险评估概览", "",
     "### 风险分数", "",
     "**" ++ o.score ++ "/100** - 风险等级：**" ++ o.level ++ "**", "",
     "### 威胁统计", "",
     "| 严重程度 | 数量 |",
     "|---------|------|",
     "| 严重 | " ++ o.critical ++ " |",
     "| 高危 | " ++ o.high ++ " |",
     "| 中危 | " ++ o.medium ++ " |",
     "| 低危 | " ++ o.low ++ " |",
     "| **总计** | **" ++ o.count ++ "** |", "",
     "---", "",
     "## 🚨 已识别的威胁", ""]

def evidenceEntry (number : Nat) (e : Value) : String :=
  toString number ++ ". ```json\n" ++ e.indented ++ "\n```\n\n"

def evidenceEntries (n : Nat) : List Value → String
  | [] => ""
  | e :: rest => evidenceEntry n e ++ evidenceEntries (n + 1) rest

def evidencePart (evidence : Value) : Except Fault String := do
  if !evidence.truthy then return ""
  return "**证据信息：**\n\n" ++ evidenceEntries 1 (← firstItems 3 evidence)

/-- The severity of a threat is read before its description and its lines. -/
def threatPart (number : Nat) (threat : Value) : Except Fault String := do
  let severity ← threat.get "severity" (.str "medium")
  let _ ← severity.text "upper"
  let row ← ThreatRow.ofThreat threat
  let evidence ← evidencePart (← threat.get "evidence" (.list []))
  return block
    ["### " ++ toString number ++ ". " ++ row.kind, "",
     "- **严重程度：** " ++ severityWord row.severity,
     "- **描述：** " ++ row.description,
     "- **行号：** " ++ row.lines, ""] ++ evidence

def threatParts (n : Nat) : List Value → Except Fault String
  | [] => .ok ""
  | t :: rest => do return (← threatPart n t) ++ (← threatParts (n + 1) rest)

def threatsPart (threats : Value) : Except Fault String := do
  if !threats.truthy then return "✅ **未检测到威胁！代码相对安全。**\n\n"
  threatParts 1 (← threats.items)

def anyOf (record : Value) (first second : String) : Except Fault Bool := do
  if (← record.get first .null).truthy then return true
  return (← record.get second .null).truthy

/-- How many items the list under a key has. -/
def sizeText (record : Value) (key : String) : Except Fault String := do
  return toString (← (← record.get key (.list [])).length)

def staticPart (static : Value) : Except Fault String := do
  if !(← anyOf static "pattern_matches" "taint_flows") then return ""
  let found ← sizeText static "pattern_matches"
  let flows ← sizeText static "taint_flows"
  let structures ← sizeText static "cfg_structures"
  let valid := (← static.get "syntax_valid" (.bool true)).truthy
  return block
    ["---", "", "## 📊 静态分析结果", "",
     "- **模式匹配：** " ++ found ++ " 项",
     "- **污点流：** " ++ flows ++ " 条",
     "- **CFG 结构：** " ++ structures ++ " 个",
     "- **语法检查：** " ++ (if valid then "通过" else "失败"), ""]

def activityLine (activity : Value) : Except Fault String := do
  let kind ← activity.get "type" (.str "unknown")
  return "- **" ++ activityWord kind ++ "** 到 " ++ (← activity.get "target" (.str "N/A")).display ++ "\n"

def activitiesPart (activities : Value) : Except Fault String := do
  if !activities.truthy then return ""
  return "### 网络活动详情\n\n" ++ String.join (← (← activities.items).mapM activityLine) ++ "\n"

def dynamicPart (dynamic : Value) : Except Fault String := do
  if !(← anyOf dynamic "syscalls" "network_activities") then return ""
  let calls ← sizeText dynamic "syscalls"
  let activities ← sizeText dynamic "network_activities"
  let fuzz ← sizeText dynamic "fuzz_results"
  let details ← activitiesPart (← dynamic.get "network_activities" .null)
  return block
    ["---", "", "## 🌐 动态分析结果", "",
     "- **系统调用：** " ++ calls ++ " 次",
     "- **网络活动：** " ++ activities ++ " 次",
     "- **模糊测试：** " ++ fuzz ++ " 次", ""] ++ details

def markdownFoot (now : Instant) : String :=
  block
    ["---", "",
     "## 📝 报告说明", "",
     "本报告由 OSS-Guardian 安全检测系统自动生成。", "",
     "**风险等级说明：**",
     "- **0-19 分（低）**：代码相对安全，只有少量低危问题",
     "- **20-49 分（中）**：存在中等风险，建议审查",
     "- **50-79 分（高）**：存在高风险，需要立即处理",
     "- **80-100 分（严重）**：存在严重安全威胁，必须修复", "",
     "---", "",
     "*报告生成时间：" ++ now.reportText ++ "*"]

def markdown (now : Instant) (results : Value) : Except Fault String := do
  let file ← results.get "file_path" (.str "未知文件")
  let threats ← results.get "threats" (.list [])
  let risk ← results.get "risk_assessment" (.dict [])
  let aggregated ← results.get "aggregated_results" (.dict [])
  let head := markdownHead now file.display (← Overview.ofRisk risk)
  let listed ← threatsPart threats
  let static ← staticPart (← aggregated.get "static" (.dict []))
  let dynamic ← dynamicPart (← aggregated.get "dynamic" (.dict []))
  return head ++ listed ++ static ++ dynamic ++ markdownFoot now

end ThreatScan.Report
