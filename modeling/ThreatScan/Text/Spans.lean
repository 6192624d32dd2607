/-!
Sets of characters given by their code points: as inclusive spans, or as the lengths of runs.
-/
namespace ThreatScan.Text

/-- Inclusive spans of code points. -/
abbrev Spans := List (Nat × Nat)

def Spans.has : Spans → Nat → Bool
  | [], _ => false
  | (lo, hi) :: rest, n => (decide (lo ≤ n) && decide (n ≤ hi)) || Spans.has rest n

theorem Spans.has_iff (spans : Spans) (n : Nat) :
    spans.has n = true ↔ ∃ s ∈ spans, s.1 ≤ n ∧ n ≤ s.2 := by
  induction spans with
  | nil => simp [Spans.has]
  | cons s rest ih => simp [Spans.has, ih]

/-- The lengths of runs of code points, from zero on, in turn outside a set and inside it. -/
abbrev Runs := List Nat

/-- The code point lies in one of the runs inside. -/
def Runs.has : Runs → Nat → Bool
  | outside :: inside :: rest, n =>
    decide (outside ≤ n) && (decide (n < outside + inside) || Runs.has rest (n - (outside + inside)))
  | _, _ => false

end ThreatScan.Text
