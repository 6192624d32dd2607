import ThreatScan.Disk.Basic
import ThreatScan.Manifest.Coordinates
import ThreatScan.Manifest.Modules
/-!
The dependencies that the manifests beside a source file declare.
-/
namespace ThreatScan

/-- A kind of manifest: the name of the file and how its text is read. -/
structure Manifest where
  file : String
  read : String → String → List Dependency

namespace Manifest

def requirements : Manifest := ⟨"requirements.txt", Requirement.ofLines⟩

def setup : Manifest := ⟨"setup.py", Requirement.ofSetup⟩

def modules : Manifest := ⟨"go.mod", ModuleFile.read⟩

def description : Manifest := ⟨"pom.xml", Coordinates.ofElements⟩

def buildScript : Manifest := ⟨"build.gradle", Coordinates.ofBlock⟩

def forLanguage : String → List Manifest
  | "python" => [requirements, setup]
  | "go" => [modules]
  | "java" => [description, buildScript]
  | _ => []

/-- The dependencies in a manifest of a directory; none if it is missing or cannot be read. -/
def dependenciesIn (d : Disk) (dir : String) (m : Manifest) : List Dependency :=
  match d.readText (Path.join dir m.file) with
  | .ok text => m.read m.file text
  | .error _ => []

end Manifest

def Disk.dependencies (d : Disk) (path language : String) : List Dependency :=
  (Manifest.forLanguage language).flatMap (Manifest.dependenciesIn d (Path.folder path))

end ThreatScan
