import ThreatScan.Disk.Basic
import ThreatScan.Text.Case
import ThreatScan.Value.Reader
/-!
Advisories on packages with known vulnerabilities, and the dependencies that they concern.

An advisory is a record of a database file. It concerns a dependency when one of the two package names holds the other,
whatever the case of their letters, and the version of the dependency is not known or holds the text of the vulnerable
versions.
-/
namespace ThreatScan.Advisory

def lowerName (record : Value) (key : String) : Except Fault String := do
  return Text.lower (← (← record.get key (.str "")).text "lower")

def coversVersion (entry version : Value) : Except Fault Bool := do
  let vulnerable ← entry.get "vulnerable_versions" (.str "")
  if !vulnerable.truthy || version.same (.str "unknown") then return true
  version.contains vulnerable

def concerns (name : String) (version entry : Value) : Except Fault Bool := do
  let package ← lowerName entry "package"
  if Text.contains name package || Text.contains package name then coversVersion entry version
  else return false

def finding (dep entry : Value) : Except Fault Value := do
  return .dict [("dependency", dep), ("cve_id", ← entry.get "cve_id" (.str "")),
    ("description", ← entry.get "description" (.str "")), ("severity", ← entry.get "severity" (.str "medium")),
    ("vulnerable_versions", ← entry.get "vulnerable_versions" (.str "")),
    ("fixed_version", ← entry.get "fixed_version" (.str ""))]

def findingsOf (dep : Value) (name : String) (version entry : Value) : Except Fault (List Value) := do
  if ← concerns name version entry then return [← finding dep entry] else return []

def findingsFor (database dep : Value) : Except Fault (List Value) := do
  let name ← lowerName dep "name"
  let version ← dep.get "version" (.str "unknown")
  return (← (← database.items).mapM (findingsOf dep name version)).flatten

def findings (database deps : Value) : Except Fault (List Value) := do
  return (← (← deps.items).mapM (findingsFor database)).flatten

/-- The advisories of a database document: a list of them, or a record that holds them. -/
def listOf : Value → Value
  | .list xs => .list xs
  | .dict fields => (Value.fieldOf? "cves" fields).getD (.list [])
  | _ => .list []

/-- The advisories of a database file; none if it is missing or is no document. -/
def readDatabase (d : Disk) (path : String) : Value :=
  match d.readText path with
  | .error _ => .list []
  | .ok text =>
    match Value.read? text with
    | some v => listOf v
    | none => .list []

end ThreatScan.Advisory
