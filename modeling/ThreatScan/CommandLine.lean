import ThreatScan.Analysis.File
/-!
The command line: it analyses one file and prints the score and the number of threats.
-/
namespace ThreatScan.CommandLine

def treeFile (path : String) : String := path ++ ".tree.json"

/-- The files that the analysis of a path reads if they are there: the file itself, the configuration, and the manifests
beside the file. -/
def inputs (path : String) : List String :=
  [path, "config/settings.yaml", "config/rules.yaml"] ++
    (Language.supported.flatMap Manifest.forLanguage).map fun m => Path.join (Path.dirName path) m.file

def usage : String := "Usage: python main_controller.py <file_path>"

/-- The program for given arguments; only the first counts. A result without an assessment has no score to print. -/
def run : List String → Act Unit
  | [] => Analysis.say usage
  | path :: _ => do
    let r ← Analysis.analyze none path
    match r.risk with
    | none => Act.fail (.fault (.missingKey (.str "risk_score")))
    | some risk =>
      Analysis.say ("\nRisk Score: " ++ toString risk.score ++ "/100")
      Analysis.say ("Threats Found: " ++ toString r.threats.length)

end ThreatScan.CommandLine
