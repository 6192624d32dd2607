import ThreatScan.Page.Basic
import ThreatScan.Report.Wording
import ThreatScan.Snippet.Reader
/-!
The part of the page that shows the results of one file.
-/
namespace ThreatScan.Page

def severityText (severity : Value) : Except Fault String := return Report.severityWord (← severity.text "upper")

def lineNumbers (threat : Value) : Except Fault String := do
  let lines ← (← threat.get "line_numbers" (.list [])).items
  let text := Text.join ", " (lines.map Value.display)
  return if text.isEmpty then "N/A" else text

def countOf (v : Value) (key : String) : Except Fault Nat := do (← v.get key (.list [])).length

def showSnippets (source threats : Value) (context limit : Int) : Page Unit := do
  match ← valid (Snippet.read source threats context limit) with
  | .notice text => say "info" text
  | .markup text => html text

def showRisk (risk : Value) : Page Unit := do
  let score ← valid (risk.get "risk_score" (.int 0))
  let level ← valid (risk.get "risk_level" (.str "low"))
  let count ← valid (risk.get "threat_count" (.int 0))
  rule
  markdown "### 📊 风险评估概览"
  columns 3
  within "col1" (metric "metric" "风险分数" (.str (score.display ++ "/100")))
  within "col2" do
    let word := Report.levelWord (← valid (level.text "upper"))
    html ("### <span class='risk-" ++ level.display ++ "'>风险等级：" ++ word ++ "</span>")
  within "col3" (metric "metric" "发现威胁" count)

def showBreakdown (risk : Value) : Page Unit := do
  let breakdown ← valid (risk.get "breakdown" (.dict []))
  markdown "### 🎯 威胁分类统计"
  columns 4
  metric "col1.metric" "严重" (← valid (breakdown.get "critical" (.int 0)))
  metric "col2.metric" "高危" (← valid (breakdown.get "high" (.int 0)))
  metric "col3.metric" "中危" (← valid (breakdown.get "medium" (.int 0)))
  metric "col4.metric" "低危" (← valid (breakdown.get "low" (.int 0)))

def threatRow (threat : Value) : Except Fault Value := do
  let severity ← threat.get "severity" (.str "medium")
  let kind ← threat.get "threat_type" (.str "未知")
  let word ← severityText severity
  let description ← threat.get "description" (.str "")
  return .dict [("威胁类型", kind), ("严重程度", .str word), ("描述", description), ("行号", .str (← lineNumbers threat))]

/-- The source of the file: from the disk if it can be opened there, else as it is remembered. -/
def sourceOf (file : Value) : Page Value := do
  match ← valid (path? file) with
  | some p =>
    if (← get).host.disk.has p then
      match ← attempt (lenientText p) with
      | .ok s => return .str s
      | .error _ => remembered "source_code"
    else remembered "source_code"
  | none => remembered "source_code"

def showEvidence (threat : Value) : Page Unit := do
  let evidence ← valid (threat.get "evidence" (.list []))
  if evidence.truthy then
    expander ("证据信息（" ++ toString (← valid evidence.length) ++ " 项）") do
      (← valid (Report.firstItems 5 evidence)).forM fun item => call "json" [item] []

def showThreat (number : Nat) (threat : Value) : Page Unit := do
  let kind ← valid (threat.get "threat_type" (.str "未知"))
  let word ← valid (severityText (← valid (threat.get "severity" (.str "medium"))))
  markdown ("#### " ++ toString number ++ ". " ++ kind.display)
  write ("**严重程度：** " ++ word)
  write ("**描述：** " ++ (← valid (threat.get "description" (.str ""))).display)
  write ("**行号：** " ++ (← valid (lineNumbers threat)))
  showEvidence threat

def showThreatsFrom (n : Nat) : List Value → Page Unit
  | [] => return ()
  | t :: rest => do
    showThreat n t
    showThreatsFrom (n + 1) rest

def showThreats (threats file : Value) : Page Unit := do
  if threats.truthy then
    rule
    markdown "### 🚨 已识别的威胁"
    table (← (← valid threats.items).mapM fun t => valid (threatRow t))
    let source ← sourceOf file
    expander "📖 文档阅读器（威胁片段）" (showSnippets source threats Snippet.defaultContext Snippet.defaultLimit)
    expander "📋 详细威胁信息" do showThreatsFrom 1 (← valid threats.items)
  else say "success" "✅ 未检测到威胁！代码相对安全。"

def showMatch (found : Value) : Page Unit := do
  let name ← valid (found.get "rule_name" (.str "未知规则"))
  let line ← valid (found.get "line" (.str "N/A"))
  write ("- **" ++ name.display ++ "** (第 " ++ line.display ++ " 行)")

def showStatic (aggregated : Value) : Page Unit := do
  let static ← valid (aggregated.get "static" (.dict []))
  let found ← valid (static.get "pattern_matches" .null)
  if found.truthy then
    rule
    expander "📊 静态分析结果" do
      write ("**模式匹配：** " ++ toString (← valid (countOf static "pattern_matches")) ++ " 项")
      write ("**污点流：** " ++ toString (← valid (countOf static "taint_flows")) ++ " 条")
      write ("**CFG 结构：** " ++ toString (← valid (countOf static "cfg_structures")) ++ " 个")
      let syntaxOk ← valid (static.get "syntax_valid" (.bool true))
      write ("**语法检查：** " ++ (if syntaxOk.truthy then "通过" else "失败"))
      markdown "#### 模式匹配详情"
      (← valid (Report.firstItems 10 found)).forM showMatch

def showActivity (activity : Value) : Page Unit := do
  let kind ← valid (activity.get "type" (.str "unknown"))
  let target ← valid (activity.get "target" (.str "N/A"))
  write ("- **" ++ Report.activityWord kind ++ "** 到 " ++ target.display)

def showFuzzRun (run : Value) : Page Unit := do
  let input ← valid (run.get "test_input" (.str ""))
  let code ← valid (run.get "return_code" (.str ""))
  let timedOut ← valid (run.get "timed_out" (.bool false))
  let crashed ← valid (run.get "crashed" (.bool false))
  write ("- 输入: \x60" ++ input.display ++ "\x60 | 返回码: " ++ code.display ++ " | 超时: " ++ timedOut.display ++
    " | 崩溃: " ++ crashed.display)

def anyField (v : Value) : List String → Except Fault Bool
  | [] => return false
  | key :: rest => do if (← v.get key .null).truthy then return true else anyField v rest

def showDynamic (aggregated : Value) : Page Unit := do
  let dynamic ← valid (aggregated.get "dynamic" (.dict []))
  if ← valid (anyField dynamic ["network_activities", "syscalls", "fuzz_results"]) then
    rule
    expander "🌐 动态分析结果" do
      let calls ← valid (dynamic.get "syscalls" (.list []))
      let networks ← valid (dynamic.get "network_activities" (.list []))
      let fuzzes ← valid (dynamic.get "fuzz_results" (.list []))
      columns 3
      metric "col1.metric" "系统调用" (.int (← valid calls.length))
      metric "col2.metric" "网络活动" (.int (← valid networks.length))
      metric "col3.metric" "模糊测试" (.int (← valid fuzzes.length))
      if networks.truthy then
        markdown "#### 网络活动详情"
        (← valid networks.items).forM showActivity
      if calls.truthy then
        markdown "#### 系统调用（前20条）"
        (← valid (Report.firstItems 20 calls)).forM fun entry => call "code" [entry] []
      if fuzzes.truthy then
        markdown "#### 模糊测试结果（前10条）"
        (← valid (Report.firstItems 10 fuzzes)).forM showFuzzRun

def offerReport (reports : Value) (format column label mime : String) : Page Unit := do
  let report ← valid (reports.get format .null)
  if report.truthy then
    let p ← valid (path report)
    let text ← onHost (Host.readText p)
    call (column ++ ".download_button") []
      [("label", .str label), ("data", .str text), ("file_name", .str (Path.baseName p)), ("mime", .str mime)]

def showReports (results : Value) : Page Unit := do
  rule
  markdown "### 📥 下载报告"
  let reports ← valid (results.get "reports" (.dict []))
  columns 3
  offerReport reports "json" "col1" "📄 下载 JSON 报告" "application/json"
  offerReport reports "html" "col2" "🌐 下载 HTML 报告" "text/html"
  offerReport reports "markdown" "col3" "📝 下载 Markdown 报告" "text/markdown"

def showResults (results file : Value) : Page Unit := do
  let risk ← valid (results.get "risk_assessment" (.dict []))
  let threats ← valid (results.get "threats" (.list []))
  let aggregated ← valid (results.get "aggregated_results" (.dict []))
  showRisk risk
  showBreakdown risk
  showThreats threats file
  showStatic aggregated
  showDynamic aggregated
  showReports results

end ThreatScan.Page
