import ThreatScan.Value.Basic
/-!
Findings in the memory of processes. The memory of a process is not looked into, so there are none.
-/
namespace ThreatScan.Memory

def findings (_process : Option Int) : List Value := []

def injections : List Value := []

end ThreatScan.Memory
