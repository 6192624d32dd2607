import ThreatScan.Text.Case
import ThreatScan.Value.Basic
/-!
Severities, and how many findings there are of each.

A finding states its severity as a word. Words other than the three highest, in any case of letters, count as low.
-/
namespace ThreatScan

inductive Severity where
  | low | medium | high | critical
  deriving DecidableEq, Repr

namespace Severity

def name : Severity → String
  | .low => "low"
  | .medium => "medium"
  | .high => "high"
  | .critical => "critical"

def ofWord (word : String) : Severity :=
  match Text.lower word with
  | "critical" => .critical
  | "high" => .high
  | "medium" => .medium
  | _ => .low

/-- The severity that a finding states; one that states none is medium. -/
def ofFinding (finding : Value) : Except Fault Severity := do
  return ofWord (← (← finding.get "severity" (.str "medium")).text "lower")

end Severity

structure Tally where
  critical : Nat
  high : Nat
  medium : Nat
  low : Nat
  deriving DecidableEq, Repr

namespace Tally

def zero : Tally := ⟨0, 0, 0, 0⟩

def add (t : Tally) (s : Severity) (n : Nat) : Tally :=
  match s with
  | .critical => { t with critical := t.critical + n }
  | .high => { t with high := t.high + n }
  | .medium => { t with medium := t.medium + n }
  | .low => { t with low := t.low + n }

def total (t : Tally) : Nat := t.critical + t.high + t.medium + t.low

def ofFindings (findings : List Value) : Except Fault Tally :=
  findings.foldlM (fun t f => do return t.add (← Severity.ofFinding f) 1) zero

end Tally
end ThreatScan
