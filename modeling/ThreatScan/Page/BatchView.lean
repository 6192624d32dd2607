import ThreatScan.Page.Chart
import ThreatScan.Page.ResultView
import ThreatScan.Report.Document
import ThreatScan.Report.Html
import ThreatScan.Report.Markdown
/-!
The part of the page that shows the results of a batch, and the reports that sum it up.
-/
namespace ThreatScan.Page

/-- The mark that tells the widgets of one batch from those of another. -/
def batchMark : String := "12345678"

def showSummary (summary : Value) : Page Unit := do
  columns 4
  metric "col1.metric" "总文件数" (← valid (summary.get "total_files" (.int 0)))
  metric "col2.metric" "成功分析" (← valid (summary.get "successful" (.int 0)))
  metric "col3.metric" "分析失败" (← valid (summary.get "failed" (.int 0)))
  metric "col4.metric" "发现威胁" (← valid (summary.get "total_threats" (.int 0)))

def successfulFiles (batch : Value) : Except Fault (List Value) := do
  (← (← batch.get "file_results" (.list [])).items).filterM fun file => do
    if (← file.get "success" .null).truthy then return (← file.get "result" .null).truthy else return false

def averageText : Value → Except Fault String
  | .float x => .ok (x.fixedText 1)
  | .int n =>
    match Binary64.ofInt n with
    | .infinite _ => .error .tooLarge
    | x => .ok (x.fixedText 1)
  | .bool b => .ok ((Binary64.ofInt (if b then 1 else 0)).fixedText 1)
  | .str _ => .error (.badFormat "f" .str)
  | v => .error (.misuse ("unsupported format string passed to " ++ v.kind.name ++ ".__format__"))

def batchLevel (level : Value) : Except Fault Value := do
  level.hashable
  match level with
  | .str "low" => return .str "低"
  | .str "medium" => return .str "中"
  | .str "high" => return .str "高"
  | .str "critical" => return .str "严重"
  | other => return other

def showOverall (risk : Value) : Page Unit := do
  markdown "### 🎯 整体风险评估"
  columns 2
  within "col1" do
    let average ← valid (averageText (← valid (risk.get "average_risk_score" (.int 0))))
    metric "metric" "平均风险分数" (.str (average ++ "/100"))
  within "col2" do
    let level ← valid (batchLevel (← valid (risk.get "risk_level" (.str "low"))))
    metric "metric" "整体风险等级" level

def batchRow (threat : Value) : Except Fault Value := do
  let severity ← threat.get "severity" (.str "medium")
  let file ← path (← threat.get "source_file" (.str "未知"))
  let kind ← threat.get "threat_type" (.str "未知")
  let word ← severityText severity
  return .dict [("文件", .str (Path.baseName file)), ("威胁类型", kind), ("严重程度", .str word),
    ("行号", .str (← lineNumbers threat))]

def showAllThreats (threats : Value) : Page Unit := do
  if threats.truthy then
    markdown "### 🚨 所有威胁汇总"
    table (← (← valid threats.items).mapM fun t => valid (batchRow t))

def showThreatLine (threat : Value) : Page Unit := do
  let kind ← valid (threat.get "threat_type" (.str "未知"))
  let severity ← valid (threat.get "severity" (.str "medium"))
  write ("- **" ++ kind.display ++ "** (严重程度: " ++ severity.display ++ ")")

def showFileSnippets (file : String) (threats : Value) : Page Unit := do
  match ← attempt (do
      showSnippets (.str (← lenientText file)) threats Snippet.defaultContext Snippet.defaultLimit) with
  | .ok () => return ()
  | .error e => say "warning" ("加载源码失败，无法展示片段：" ++ e.message)

def showFileResult (file : String) (result : Value) : Page Unit := do
  let risk ← valid (result.get "risk_assessment" (.dict []))
  let threats ← valid (result.get "threats" (.list []))
  write ("**风险分数：** " ++ (← valid (risk.get "risk_score" (.int 0))).display ++ "/100")
  write ("**发现威胁：** " ++ toString (← valid threats.length) ++ " 个")
  if threats.truthy then
    (← valid threats.items).forM showThreatLine
    expander "📖 文档阅读器（威胁片段）" (showFileSnippets file threats)

def showFile (entry : Value) : Page Unit := do
  let file ← valid (do path (← entry.get "file_path" (.str "未知")))
  expander ("📄 " ++ Path.baseName file) do
    if (← valid (entry.get "success" .null)).truthy then
      showFileResult file (← valid (entry.get "result" (.dict [])))
    else
      say "error" ("分析失败：" ++ (← valid (entry.get "error" (.str "未知错误"))).display)

def fileSummary (entry : Value) : Except Fault Value := do
  let file ← entry.get "file_path" .null
  if !(← entry.get "success" .null).truthy then
    return .dict [("file_path", file), ("risk_score", .int 0), ("threat_count", .int 0)]
  let result ← entry.get "result" (.dict [])
  let score ← (← result.get "risk_assessment" (.dict [])).get "risk_score" (.int 0)
  return .dict [("file_path", file), ("risk_score", score), ("threat_count", .int (← countOf result "threats"))]

def batchReportData (batch : Value) : Except Fault Value := do
  let summary ← batch.get "summary" (.dict [])
  let risk ← batch.get "overall_risk" (.dict [])
  let threats ← batch.get "aggregated_threats" (.list [])
  let files ← (← (← batch.get "file_results" (.list [])).items).mapM fileSummary
  return .dict [("analysis_type", .str "batch"), ("summary", summary), ("overall_risk", risk),
    ("aggregated_threats", threats), ("file_results", .list files)]

def offerBatchReport (dir content ext column label mime key : String) : Page Unit := do
  let name := "batch_analysis_" ++ (← get).host.now.stamp ++ ext
  let target := Path.join dir name
  onHost (Host.writeText target content)
  let text ← onHost (Host.readText target)
  call (column ++ ".download_button") []
    [("label", .str label), ("data", .str text), ("file_name", .str name), ("mime", .str mime),
      ("key", .str (batchMark ++ "_batch_" ++ key))]

def showBatchReports (batch config : Value) : Page Unit := do
  if batch.truthy then
    let data ← valid (batchReportData batch)
    let now := (← get).host.now
    let settings ← valid (config.get "settings" (.dict []))
    let dir ← valid (do path (← settings.get "report_path" (.str "data/reports/")))
    onHost (Host.makeDirs dir)
    columns 3
    offerBatchReport dir (Report.json now data) ".json" "col1" "📄 下载 JSON 汇总报告" "application/json" "json"
    offerBatchReport dir (← valid (Report.html now data)) ".html" "col2" "🌐 下载 HTML 汇总报告" "text/html" "html"
    offerBatchReport dir (← valid (Report.markdown now data)) ".md" "col3" "📝 下载 Markdown 汇总报告" "text/markdown" "md"

def showBatch (batch config : Value) : Page Unit := do
  rule
  markdown "### 📊 批量分析结果汇总"
  let summary ← valid (batch.get "summary" (.dict []))
  let risk ← valid (batch.get "overall_risk" (.dict []))
  showSummary summary
  let _ ← valid (successfulFiles batch)
  showOverall risk
  let threats ← valid (batch.get "aggregated_threats" (.list []))
  showChart threats
  showAllThreats threats
  markdown "### 📄 各文件分析结果"
  (← valid (do (← batch.get "file_results" (.list [])).items)).forM showFile
  rule
  markdown "### 📥 下载批量分析报告"
  showBatchReports batch config

end ThreatScan.Page
