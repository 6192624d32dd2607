import ThreatScan.Analysis.Batch
import ThreatScan.Page.Archive
import ThreatScan.Page.BatchView
/-!
The part of the page that lists the source files of an archive and analyses those that are chosen.
-/
namespace ThreatScan.Page

def languageOf (file : Value) : Except Fault Value := file.get "language" (.str "unknown")

def languageText (counts : Counts) : Except Fault String := do
  let parts ← counts.mapM fun c => do return toString c.2 ++ " 个 " ++ Text.upper (← c.1.text "upper")
  return Text.join ", " parts

def languageIcon (language : Value) : String :=
  match language with
  | .str "python" => "🐍"
  | .str "go" => "🐹"
  | .str "java" => "☕"
  | _ => "📄"

def checkKey (i : Nat) : String := "file_checkbox_" ++ toString i

def indexValues (indices : List Nat) : Value := .list (indices.map fun (i : Nat) => .int i)

def checkAllButton (label key : String) (count : Nat) (checked : Bool) : Page Unit := do
  if ← button "button" label (some key) [] then
    remember "selected_files" (indexValues (if checked then List.range count else []))
    (List.range count).forM fun i => remember (checkKey i) (.bool checked)
    call "rerun" [] []

def checkFile (i : Nat) (file : Value) : Page Bool := do
  let language ← valid (languageOf file)
  let name ← valid (file.require "name")
  let word := Text.upper (← valid (language.text "upper"))
  let selected ← remembered "selected_files"
  let checked ← valid (selected.contains (.int i))
  let answer ← checkbox "checkbox" (languageIcon language ++ " " ++ name.display ++ " (" ++ word ++ ")")
    (.bool checked) (some (checkKey i)) []
  return answer.truthy

/-- The check boxes of files numbered from `i`; the numbers of those that are chosen. -/
def checkFilesFrom (i : Nat) : List Value → Page (List Nat)
  | [] => return []
  | file :: rest => do
    let chosen ← checkFile i file
    let others ← checkFilesFrom (i + 1) rest
    return if chosen then i :: others else others

def pathAt (files : List Value) (i : Nat) : Except Fault String := do
  path (← ((files[i]?).getD .null).require "path")

def unpackedDirs (files : List Value) : Except Fault (List Value) :=
  files.mapM fun f => do
    let dir ← f.get "temp_dir" .null
    dir.hashable
    return dir

/-- Analyses the chosen files, shows the results, and removes what was unpacked. -/
def analyzeChosen (files : List Value) (chosen : List Nat) (config : Option Value) : Page Unit := do
  let paths ← valid (chosen.mapM (pathAt files))
  spinner ("⏳ 正在分析 " ++ toString paths.length ++ " 个文件，请稍候...") do
    let batch := (← onHost (Analysis.analyzeMany config paths)).toValue
    remember "batch_results" batch
    remember "batch_extracted_files" (.list files)
    showBatch batch (config.getD .null)
    let dirs ← valid (unpackedDirs files)
    let disk ← valid (cleanUp (← get).host.disk dirs)
    modify fun v => { v with host := { v.host with disk } }
    remember "zip_temp_dirs" (.list [])

/-- Lists the source files of an archive; if asked to, analyses those that are chosen. -/
def showFileList (files : List Value) (config : Option Value) (analyze : Bool) : Page Unit := do
  let counts ← valid (Counts.ofField "language" (.str "unknown") files)
  let languages ← valid (languageText counts)
  say "info" ("📦 **ZIP 文件已解压，发现 " ++ toString files.length ++ " 个文件** (" ++ languages ++ ")")
  markdown "### 📋 选择要分析的文件"
  rememberFirst "selected_files" (.list [])
  call "columns" [.list [.int 1, .int 4]] []
  within "col1" (checkAllButton "全选" "select_all_btn" files.length true)
  within "col2" (checkAllButton "取消全选" "deselect_all_btn" files.length false)
  let chosen ← checkFilesFrom 0 files
  remember "selected_files" (indexValues chosen)
  if analyze && !chosen.isEmpty then analyzeChosen files chosen config
  else
    let batch := (← remembered? "batch_results").getD .null
    if batch.truthy then showBatch batch (config.getD .null)

end ThreatScan.Page
