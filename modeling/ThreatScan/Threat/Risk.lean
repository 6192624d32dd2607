import ThreatScan.Threat.Severity
/-!
The risk that a list of threats amounts to: a score from 0 to 100, and a level read off the score.
-/
namespace ThreatScan

structure Risk where
  score : Nat
  level : Severity
  count : Nat
  tally : Tally
  deriving DecidableEq, Repr

namespace Risk

def points : Severity → Nat
  | .critical => 30
  | .high => 15
  | .medium => 5
  | .low => 1

def maxScore : Nat := 100

def scoreOf (t : Tally) : Nat :=
  min (t.critical * points .critical + t.high * points .high + t.medium * points .medium + t.low * points .low) maxScore

def levelOf (score : Nat) : Severity :=
  if 80 ≤ score then .critical
  else if 50 ≤ score then .high
  else if 20 ≤ score then .medium
  else .low

def ofTally (t : Tally) (count : Nat) : Risk := ⟨scoreOf t, levelOf (scoreOf t), count, t⟩

def assess (threats : Value) : Except Fault Risk := do
  let t ← Tally.ofFindings (← threats.items)
  return ofTally t (← threats.length)

def tallyValue (t : Tally) : Value :=
  .dict [("critical", .int t.critical), ("high", .int t.high), ("medium", .int t.medium), ("low", .int t.low)]

def fields (r : Risk) : List (String × Value) :=
  [("risk_score", .int r.score), ("risk_level", .str r.level.name), ("threat_count", .int r.count),
   ("breakdown", tallyValue r.tally)]

def toValue (r : Risk) : Value := .dict r.fields

theorem scoreOf_le (t : Tally) : scoreOf t ≤ maxScore := Nat.min_le_right _ _

end Risk
end ThreatScan
