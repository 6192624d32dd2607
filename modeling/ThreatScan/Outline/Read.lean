import ThreatScan.Disk.Basic
import ThreatScan.Outline.GoFile
import ThreatScan.Outline.JavaFile
/-!
Outlines of files on a disk.
-/
namespace ThreatScan

inductive OutlineError where
  | goFile (path : String) (e : TextError)
  | javaFile (path : String) (e : TextError)
  deriving DecidableEq, Repr

def OutlineError.message : OutlineError → String
  | .goFile path e => "Failed to read Go file " ++ path ++ ": " ++ e.message
  | .javaFile path e => "Failed to read Java file " ++ path ++ ": " ++ e.message

def GoFile.read (d : Disk) (path : String) : Except OutlineError GoFile :=
  match d.readText path with
  | .ok source => .ok (GoFile.ofSource path source)
  | .error e => .error (.goFile path e)

def JavaFile.read (d : Disk) (path : String) : Except OutlineError JavaFile :=
  match d.readText path with
  | .ok source => .ok (JavaFile.ofSource path source)
  | .error e => .error (.javaFile path e)

end ThreatScan
