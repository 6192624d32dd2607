import ThreatScan.Value.Basic
/-!
Dependencies as a project's manifest declares them.
-/
namespace ThreatScan

/-- A declared dependency. Only some manifests state how the version binds. -/
structure Dependency where
  name : String
  version : String
  constraint : Option String
  source : String
  deriving DecidableEq, Repr

namespace Dependency

def unknownVersion : String := "unknown"

def toValue (d : Dependency) : Value :=
  let bound := match d.constraint with
    | some c => [("constraint", Value.str c)]
    | none => []
  .dict ([("name", .str d.name), ("version", .str d.version)] ++ bound ++ [("source", .str d.source)])

end Dependency
end ThreatScan
