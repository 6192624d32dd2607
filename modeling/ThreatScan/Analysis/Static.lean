import ThreatScan.Advisory.Basic
import ThreatScan.Advisory.Shipped
import ThreatScan.Analysis.Result
import ThreatScan.Host.Build
import ThreatScan.Language
import ThreatScan.Manifest.Project
import ThreatScan.Rule.Scan
import ThreatScan.Syntax.ControlFlow
import ThreatScan.Syntax.Quote
import ThreatScan.Taint.Flow
import ThreatScan.Taint.Lines
/-!
The static analysis of a source file.
-/
namespace ThreatScan.Analysis

/-- A source file prepared for analysis: its text, its tree if it has one, its symbols and its listing. -/
structure Prepared where
  source : String
  tree : Option Tree
  symbols : Value
  listing : Value

def say (line : String) : Act Unit := Act.always (Host.print line)

def listsOf (record : Value) : List String → Except Fault (List Value)
  | [] => .ok []
  | key :: keys => do return (← (← record.get key (.list [])).items) ++ (← listsOf record keys)

def prepare (path language : String) : Act Prepared := do
  say ("[INFO] Reading file: " ++ path)
  say ("[INFO] Detected language: " ++ language)
  let source ← Act.check Failure.source ((← get).disk.readSource path)
  match language with
  | "python" =>
    say "[INFO] Building AST..."
    let parser := (← get).parser.forFile (← get).disk path
    let tree ← Act.check Failure.tree (Tree.ofSource parser path source)
    say "[INFO] Extracting symbols..."
    say "[INFO] Generating IR..."
    return ⟨source, some tree, tree.symbols.toValue, .list (tree.listing.map Instruction.toValue)⟩
  | "go" =>
    say "[INFO] Building Go AST..."
    let file ← Act.check Failure.outline (GoFile.read (← get).disk path)
    let summary ← Act.valid (GoFile.summaryOf file.toValue)
    return ⟨source, none, .list (← Act.valid (listsOf summary ["functions", "variables"])), .list []⟩
  | _ =>
    say "[INFO] Building Java AST..."
    let file ← Act.check Failure.outline (JavaFile.read (← get).disk path)
    let summary ← Act.valid (JavaFile.summaryOf file.toValue)
    return ⟨source, none, .list (← Act.valid (listsOf summary ["classes", "methods", "variables"])), .list []⟩

def staticRecord (found flows structures : List Value) (valid : Bool) (errors : List Value) (p : Prepared)
    (deps findings : List Value) : Value :=
  .dict [("pattern_matches", .list found), ("taint_flows", .list flows), ("cfg_structures", .list structures),
    ("syntax_valid", .bool valid), ("syntax_errors", .list errors), ("symbols", p.symbols), ("ir", p.listing),
    ("dependencies", .list deps), ("cve_matches", .list findings)]

def dependencyResults (path language : String) : Act (List Value × List Value) := do
  let deps := ((← get).disk.dependencies path language).map Dependency.toValue
  let findings ← Act.valid (Advisory.findings Advisory.shippedDatabase (.list deps))
  return (deps, findings)

def ruleMatches (source : String) (rules : List Value) : Act (List Value) := do
  return (← Act.valid (Rule.scanValue (.str source) (.list rules))).map RuleMatch.toValue

def pythonResults (s : Settings) (path : String) (p : Prepared) : Act Value := do
  let report := SyntaxReport.check ((← get).parser.forFile (← get).disk path) p.source
  let found ← ruleMatches p.source (Rule.listOf s.rules)
  let flows := (p.tree.map Tree.taintFlows).getD []
  let structures := (p.tree.map Tree.flowStructures).getD []
  let (deps, findings) ← dependencyResults path "python"
  return staticRecord found (flows.map TaintFlow.toValue) (structures.map FlowStructure.toValue) report.valid
    (report.issues.map SyntaxIssue.toValue) p deps findings

/-- The static results of a file of another language: `check` is its compiler, `words` are its taint words. -/
def otherResults (s : Settings) (path language : String) (check : StateM Host BuildReport) (words : TaintWords)
    (p : Prepared) : Act Value := do
  let report ← Act.always check
  let rules ← Act.valid (Rule.selectFor language (Rule.listOf s.rules))
  let found ← ruleMatches p.source rules
  let flows := words.flowsIn (← get).disk path
  let (deps, findings) ← dependencyResults path language
  return staticRecord found (flows.map LineFlow.toValue) [] report.valid (report.errors.map .str) p deps findings

def noStatic : Value :=
  .dict [("pattern_matches", .list []), ("taint_flows", .list []), ("cfg_structures", .list []), ("syntax_valid", .bool true),
    ("symbols", .dict []), ("ir", .list [])]

def staticResults (s : Settings) (path language : String) : Act Value := do
  let p ← prepare path language
  if !s.static then return noStatic
  say "[INFO] Performing static analysis..."
  match language with
  | "python" => pythonResults s path p
  | "go" => otherResults s path "go" (Host.checkGo path) goTaintWords p
  | _ => otherResults s path "java" (Host.checkJava path) javaTaintWords p

end ThreatScan.Analysis
