import ThreatScan.Analysis.Dynamic
import ThreatScan.Host.Config
import ThreatScan.Report.Document
import ThreatScan.Report.Html
import ThreatScan.Report.Markdown
import ThreatScan.Report.Save
/-!
The analysis of one file, from its text to its reports.

The analysis goes through steps. Each step adds to the result; a step that fails ends the analysis, and the result keeps
what the steps before it added.
-/
namespace ThreatScan.Analysis

/-! Files without code. -/

def isCommentLine (line : List Char) : Bool :=
  match Text.trimList line with
  | [] => true
  | s => ['#'].isPrefixOf s || ['/', '/'].isPrefixOf s || ['/', '*'].isPrefixOf s || ['*'].isPrefixOf s

def isEmptyText (text : String) : Bool := (Text.cutAt '\n' text.toList).all isCommentLine

def isEmptyContent : Content → Bool
  | .text s => s.isEmpty
  | .bytes bs => bs.isEmpty

/-- The file has no code. A file that cannot be read is taken to have some. -/
def isEffectivelyEmpty (d : Disk) (path : String) : Bool :=
  match d.entry? path with
  | some (.file c denial) =>
    isEmptyContent c || (denial.isNone && isEmptyText (Disk.lenientTextOf c))
  | _ => false

/-! Steps. -/

abbrev Step := AnalysisResult → Act AnalysisResult

def staticStep (s : Settings) : Step := fun r => do
  return { r with static := ← staticResults s r.path r.language }

def dynamicStep (s : Settings) : Step := fun r => do
  return { r with dynamic := ← dynamicResults s r.path r.language }

def aggregateStep : Step := fun r => do
  say "[INFO] Aggregating results..."
  return { r with aggregated := some (← Act.valid (Aggregate.ofResults r.static r.dynamic)) }

def threatStep : Step := fun r => do
  say "[INFO] Identifying threats..."
  return { r with threats := ← Act.valid (Threat.identify r.aggregatedValue) }

def riskStep : Step := fun r => do
  say "[INFO] Assessing risk..."
  return { r with risk := some (← Act.valid (Risk.assess (.list r.threatValues))) }

def reportData (r : AnalysisResult) : Value :=
  .dict [("file_path", .str r.path), ("aggregated_results", r.aggregatedValue), ("threats", .list r.threatValues),
    ("risk_assessment", r.riskValue)]

def reportDir (s : Settings) : Except Fault String :=
  match s.reportPath with
  | .str p => .ok p
  | v => .error (.noPath v.kind)

/-- The path of a report: the name of the file without its extension, and the time. -/
def reportPath (dir path : String) (now : Instant) (ext : String) : String :=
  Path.join dir ((Path.splitExt (Path.baseName path)).1 ++ "_" ++ now.stamp ++ ext)

def saveReport (s : Settings) (content ext format : String) : Step := fun r => do
  let h ← get
  let dir ← Act.valid (reportDir s)
  let (path, d) := Report.save h.disk content (reportPath dir r.path h.now ext) format
  set { h with disk := d }
  return { r with reports := r.reports ++ [(format, ← Act.check Failure.disk path)] }

def documentStep (s : Settings) : Step := fun r => do
  say "[INFO] Generating reports..."
  let content := Report.json (← get).now (reportData r)
  Host.makeDirs (← Act.valid (reportDir s))
  saveReport s content ".json" "json" r

def pageStep (s : Settings) : Step := fun r => do
  saveReport s (← Act.valid (Report.html (← get).now (reportData r))) ".html" "html" r

def markdownStep (s : Settings) : Step := fun r => do
  saveReport s (← Act.valid (Report.markdown (← get).now (reportData r))) ".md" "markdown" r

def finalStep : Step := fun r => do
  say ("[SUCCESS] Analysis complete. Risk score: " ++ toString r.score ++ "/100")
  return r

def steps (s : Settings) : List Step :=
  [staticStep s, dynamicStep s, aggregateStep, threatStep, riskStep, documentStep s, pageStep s, markdownStep s, finalStep]

def runSteps : List Step → AnalysisResult → StateM Host AnalysisResult
  | [], r => return r
  | step :: rest, r => do
    match ← Act.attempt (step r) with
    | .ok r => runSteps rest r
    | .error e =>
      Host.print ("[ERROR] Analysis failed: " ++ e.message)
      return { r with ending := .failed e.message }

def analyzeWith (config : Value) (path : String) : Act AnalysisResult := do
  if isEffectivelyEmpty (← get).disk path then
    say ("[INFO] Skipping empty/comment-only file: " ++ path)
    return .skip path
  let s ← Act.valid (Settings.ofConfig config)
  let language := Language.detect (← get).disk path
  if !Language.isSupported language then Act.fail (.unsupported language)
  Act.always (runSteps (steps s) (.start path language))

/-- The configuration given, or else the one of the working directory. -/
def configOr (config : Option Value) : Act Value :=
  match config with
  | some c => pure c
  | none => Host.loadConfig "config"

def analyze (config : Option Value) (path : String) : Act AnalysisResult := do
  analyzeWith (← configOr config) path

end ThreatScan.Analysis
