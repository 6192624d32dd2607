import ThreatScan.Analysis.File
/-!
The analysis of many files, with a summary over all of them.

A file that is skipped or whose analysis cannot begin counts as failed, and the others go on. The threats of the files
that succeed are marked with their file and put together, and the overall risk is assessed from all of them.
-/
namespace ThreatScan

inductive FileOutcome where
  | done (r : AnalysisResult)
  | skipped (r : AnalysisResult)
  | failed (message : String)

structure FileEntry where
  path : String
  outcome : FileOutcome

namespace FileEntry

def success (e : FileEntry) : Bool :=
  match e.outcome with
  | .done _ => true
  | _ => false

def result? (e : FileEntry) : Option AnalysisResult :=
  match e.outcome with
  | .done r => some r
  | _ => none

def threats (e : FileEntry) : List Value := (e.result?.map AnalysisResult.threatValues).getD []

def score (e : FileEntry) : Nat := (e.result?.map AnalysisResult.score).getD 0

def toValue (e : FileEntry) : Value :=
  match e.outcome with
  | .done r => .dict [("file_path", .str e.path), ("result", r.toValue), ("success", .bool true)]
  | .skipped r =>
    .dict [("file_path", .str e.path), ("result", r.toValue), ("success", .bool false),
      ("error", .str AnalysisResult.emptyReason)]
  | .failed message =>
    .dict [("file_path", .str e.path), ("result", .null), ("success", .bool false), ("error", .str message)]

end FileEntry

structure Batch where
  entries : List FileEntry
  overall : Risk
  /-- The mean score of the files that succeeded, if there are any. -/
  average : Option Binary64

namespace Batch

def successful (entries : List FileEntry) : List FileEntry := entries.filter (·.success)

def threats (entries : List FileEntry) : List Value := entries.flatMap FileEntry.threats

def averageOf (entries : List FileEntry) : Option Binary64 :=
  let done := successful entries
  if done.isEmpty then none else some (Binary64.ofRatio false (done.foldl (fun n e => n + e.score) 0) done.length)

def ofEntries (entries : List FileEntry) : Except Fault Batch := do
  return ⟨entries, ← Risk.assess (.list (threats entries)), averageOf entries⟩

def overallValue (b : Batch) : Value :=
  .dict (b.overall.fields ++ [("average_risk_score", (b.average.map Value.float).getD (.int 0))])

def toValue (b : Batch) : Value :=
  let total := b.entries.length
  let done := (successful b.entries).length
  let found := threats b.entries
  .dict [("files_analyzed", .int total), ("files_successful", .int done), ("files_failed", .int (total - done)),
    ("file_results", .list (b.entries.map FileEntry.toValue)), ("aggregated_threats", .list found),
    ("overall_risk", b.overallValue),
    ("summary", .dict [("total_files", .int total), ("successful", .int done), ("failed", .int (total - done)),
      ("total_threats", .int found.length)])]

end Batch

namespace Analysis

def entryOf (config : Value) (path : String) : StateM Host FileEntry := do
  match ← Act.attempt (analyzeWith config path) with
  | .ok r =>
    if r.ending == .skipped then return ⟨path, .skipped r⟩
    return ⟨path, .done { r with mark := some path }⟩
  | .error e =>
    Host.print ("[ERROR] Failed to analyze " ++ path ++ ": " ++ e.message)
    return ⟨path, .failed e.message⟩

/-- Analyses files numbered from `n` out of `total`. -/
def entriesFrom (config : Value) (n total : Nat) : List String → StateM Host (List FileEntry)
  | [] => return []
  | path :: rest => do
    Host.print ("[INFO] Analyzing file " ++ toString n ++ "/" ++ toString total ++ ": " ++ path)
    let e ← entryOf config path
    return e :: (← entriesFrom config (n + 1) total rest)

def analyzeMany (config : Option Value) (paths : List String) : Act Batch := do
  let config ← configOr config
  let entries ← Act.always (entriesFrom config 1 paths.length paths)
  Act.valid (Batch.ofEntries entries)

end Analysis
end ThreatScan
