import ThreatScan.Disk.Basic
import ThreatScan.Regex.Build
import ThreatScan.Value.Basic
/-!
Taint flows by lines, for languages without a tree: every line with an input is paired with every later line with a
dangerous call.
-/
namespace ThreatScan

open Regex Regex.Pattern

structure TaintWords where
  sources : List Pattern
  sinks : List Pattern

structure LineFlow where
  sourceLine : Nat
  sourceCode : String
  sinkLine : Nat
  sinkCode : String
  deriving DecidableEq, Repr

def goTaintWords : TaintWords where
  sources := ["os.Args", "flag.String(", "flag.Int(", "flag.Bool(", "http.Request.FormValue(",
    "http.Request.PostFormValue(", "http.Request.Header.Get(", "c.Query(", "c.Param("].map lit
  sinks := ["exec.Command(", "exec.Run(", "os.Exec(", "os.OpenFile(", "os.Create(", "os.WriteFile(", "fmt.Sprintf(",
    "sql.DB.Query(", "sql.DB.Exec("].map lit

def javaTaintWords : TaintWords where
  sources := [lit "System.in", all [lit "args", blanks, char '[']] ++
    ["request.getParameter(", "request.getHeader(", "request.getQueryString(", "request.getCookies(",
      "session.getAttribute("].map lit
  sinks := [lit "Runtime.getRuntime().exec(", lit "ProcessBuilder(", all [lit "new", blanks1, lit "ProcessBuilder("]] ++
    ["FileWriter(", "FileOutputStream(", "PrintWriter(", "Statement.executeQuery(", "Statement.executeUpdate(",
      "PreparedStatement.executeQuery(", "PreparedStatement.executeUpdate("].map lit

/-- The lines on which one of the patterns occurs, numbered from `n` and trimmed. -/
def linesWith (words : List Pattern) (n : Nat) : List String → List (Nat × String)
  | [] => []
  | line :: rest =>
    if words.any (·.occursIn line) then (n, Text.trim line) :: linesWith words (n + 1) rest
    else linesWith words (n + 1) rest

def TaintWords.flows (w : TaintWords) (source : String) : List LineFlow :=
  let lines := Text.lines source
  let sinks := linesWith w.sinks 1 lines
  (linesWith w.sources 1 lines).flatMap fun (n, code) =>
    (sinks.filter fun s => decide (n < s.1)).map fun (m, sink) => ⟨n, code, m, sink⟩

/-- The flows of a file; none if it cannot be read. -/
def TaintWords.flowsIn (w : TaintWords) (d : Disk) (path : String) : List LineFlow :=
  match d.readText path with
  | .ok source => w.flows source
  | .error _ => []

def LineFlow.toValue (f : LineFlow) : Value :=
  .dict [("source_line", .int f.sourceLine), ("source_code", .str f.sourceCode), ("sink_line", .int f.sinkLine),
    ("sink_code", .str f.sinkCode),
    ("description", .str ("Taint data from line " ++ toString f.sourceLine ++ " flows to sink at line " ++
      toString f.sinkLine))]

end ThreatScan
