import ThreatScan.Disk.Basic
/-!
Reports on a disk.
-/
namespace ThreatScan.Report

/-- The path with the extension of the format, unless it ends in it. -/
def pathFor (path format : String) : String :=
  if Text.endsWith path ("." ++ format) then path else path ++ "." ++ format

/-- Writes a report, making the directories that its path needs; gives the path written to. The disk is given also in
case of failure, with the directories made until then. -/
def save (d : Disk) (content path format : String) : Except DiskError String × Disk :=
  let dir := Path.dirName path
  let made : Except DiskError Disk := if dir.isEmpty then .ok d else d.makeDirs dir
  match made with
  | .error e => (.error e, d)
  | .ok d =>
    let target := pathFor path format
    match d.write target (.text content) with
    | .error e => (.error e, d)
    | .ok d => (.ok target, d)

end ThreatScan.Report
