import ThreatScan.Page.FileList
import ThreatScan.Page.Welcome
/-!
The page as a whole: the side bar with the upload and the options, and the main part with results, the files of an
archive, or a greeting.
-/
namespace ThreatScan.Page

/-- The languages to choose from, by the word that the visitor sees; the first one leaves the choice to the program. -/
def languageOptions : List (String × Option String) :=
  [("自动检测", none), ("Python", some "python"), ("Go", some "go"), ("Java", some "java")]

def singleMode : String := "单个文件"

def archiveMode : String := "ZIP 压缩包"

/-- What stands in the place of the trace of a failure. -/
def traceText : String := "<traceback>"

def prepareSession : Page Unit := do
  rememberFirst "analysis_results" .null
  rememberFirst "source_code" .null
  rememberFirst "current_file_path" .null
  rememberFirst "zip_temp_dirs" (.list [])
  rememberFirst "batch_results" .null
  rememberFirst "batch_extracted_files" (.list [])

/-- The language that the visitor chose; empty if the program is to choose. -/
def chooseLanguage : Page String := do
  call "sidebar.selectbox" [.str "项目语言", .list (languageOptions.map fun o => .str o.1)]
    [("help", .str "选择项目主要语言（ZIP 将按此过滤文件；单文件上传会限定扩展名）")]
  let choice := (← get).choices.language.getD (.str "自动检测")
  valid choice.hashable
  match choice with
  | .str word =>
    match languageOptions.find? fun o => o.1 == word with
    | some option => return option.2.getD ""
    | none => fail (.fault (.missingKey choice))
  | other => fail (.fault (.missingKey other))

def chooseMode : Page Value := do
  call "sidebar.radio" [.str "上传模式", .list [.str singleMode, .str archiveMode]]
    [("help", .str "选择上传单个源文件或包含多个文件的 ZIP 压缩包")]
  return (← get).choices.mode.getD (.str singleMode)

def allowedTypes (language : String) : List String :=
  match language with
  | "python" => ["py"]
  | "go" => ["go"]
  | "java" => ["java"]
  | _ => ["py", "go", "java"]

inductive Received where
  | nothing
  | file (u : Upload)
  | archive (u : Upload)

def receiveUpload (mode : Value) (language : String) : Page Received := do
  if mode.same (.str singleMode) then
    call "sidebar.file_uploader" [.str "选择要分析的源文件"]
      [("type", .list ((allowedTypes language).map Value.str)), ("help", .str "根据项目语言限制可选文件类型，避免误选")]
    return ((← get).choices.file.map Received.file).getD .nothing
  else
    call "sidebar.file_uploader" [.str "选择 ZIP 压缩包"]
      [("type", .list [.str "zip"]), ("help", .str "上传包含源代码的 ZIP 压缩包（支持拖拽，按所选语言过滤）")]
    return ((← get).choices.archive.map Received.archive).getD .nothing

def withField (v : Value) (key : String) (w : Value) : Value :=
  match v with
  | .dict fields => .dict (Value.setField key w fields)
  | other => other

def option (label : String) (value : Value) (help : String) : Page Value :=
  checkbox "sidebar.checkbox" label value none [("help", .str help)]

/-- The configuration with the options that the visitor chose. In the mode for archives the dynamic analysis is off
unless it is asked for. -/
def chooseOptions (config mode : Value) : Page Value := do
  say "sidebar.markdown" "### ⚙️ 分析选项"
  let settings ← valid (config.require "settings")
  let dynamicDefault ← valid (settings.get "enable_dynamic_analysis" (.bool true))
  let staticDefault ← valid (settings.get "enable_static_analysis" (.bool true))
  let static ← option "静态分析" staticDefault "启用静态代码分析（模式匹配、污点分析、CFG分析）"
  let dynamic ← option "动态分析" (if mode.same (.str archiveMode) then .bool false else dynamicDefault)
    "启用动态行为分析（系统调用监控、网络监控、模糊测试）"
  let sandboxDefault ← valid (settings.get "enable_sandbox" (.bool true))
  let sandbox ← option "启用沙箱执行" sandboxDefault
    "仅 Python 动态分析使用沙箱。关闭可跳过沙箱以提速，但缺少系统调用/网络监控。"
  let settings := withField settings "enable_static_analysis" static
  let settings := withField settings "enable_dynamic_analysis" dynamic
  let settings := withField settings "enable_sandbox" sandbox
  return withField config "settings" settings

/-- Locks a file that was written, if it is one that gets locked. -/
def lock (target : String) : Page Unit := do
  let v ← get
  match v.locked target, v.host.disk.read target with
  | some denial, .ok content =>
    set { v with host := { v.host with disk := v.host.disk.plant target (.file content (some denial)) } }
  | _, _ => return ()

def keepUpload (u : Upload) : Page String := do
  let target := Path.temp ++ "/tmp" ++ (← onHost (Act.always Host.tempName)) ++ ".py"
  onHost (Host.writeText target "")
  match u.text with
  | .error e => fail (.decode e)
  | .ok text =>
    onHost (Host.writeText target text)
    lock target
    return target

def analyzeUpload (config : Value) (file : String) : Page Unit := do
  call "progress" [.int 0] []
  call "empty" [] []
  say "empty.info" "🔄 正在启动分析..."
  call "progress.progress" [.int 10] []
  let results ← spinner "⏳ 正在分析文件，请稍候..." (onHost (Analysis.analyze (some config) file))
  let results := results.toValue
  call "progress.progress" [.int 100] []
  say "empty.success" "✅ 分析完成！"
  remember "analysis_results" results
  remember "current_file_path" (.str file)
  remember "source_code" (.str (← onHost (Host.readText file)))
  showResults results (.str file)

def showFailure (e : Failure) : Page Unit := do
  say "error" ("❌ 分析失败：" ++ e.message)
  expander "📋 错误详情" (say "code" traceText)

def showUpload (u : Upload) (config : Value) (analyze : Bool) : Page Unit := do
  say "info" ("📄 **文件名称：** " ++ u.name ++ " | **文件大小：** " ++ toString u.size ++ " 字节")
  if analyze then
    let file ← keepUpload u
    match ← attempt (analyzeUpload config file) with
    | .ok () => return ()
    | .error e => showFailure e
  else
    let results ← remembered "analysis_results"
    let file ← remembered "current_file_path"
    if results.truthy && file.truthy then showResults results file

def showWelcome : Page Unit := do
  html greeting
  columns 2
  within "col1" (html featureCard)
  within "col2" (html detectionCard)
  html instructions
  expander "📝 示例：使用测试文件" (call "code" [.str sampleNote] [("language", .str "python")])

/-- The main part without an upload: results from before, or the greeting. -/
def showEarlier (config : Value) : Page Unit := do
  let results ← remembered "analysis_results"
  if results.truthy then showResults results (← remembered "current_file_path")
  else
    let batch ← remembered "batch_results"
    if batch.truthy then showBatch batch config else showWelcome

def home : Page Unit := do
  html banner
  let config ← onHost (Host.loadConfig "config")
  prepareSession
  say "sidebar.markdown" "### 📁 文件上传"
  let language ← chooseLanguage
  let mode ← chooseMode
  let received ← receiveUpload mode language
  let config ← chooseOptions config mode
  let analyze ← button "sidebar.button" "🔍 开始分析" none [("type", .str "primary"), ("use_container_width", .bool true)]
  match received with
  | .file u => showUpload u config analyze
  | .archive u =>
    let files ← takeArchive u language
    if files.isEmpty then showEarlier config
    else showFileList (files.map SourceFile.toValue) (some config) analyze
  | .nothing => showEarlier config

end ThreatScan.Page
