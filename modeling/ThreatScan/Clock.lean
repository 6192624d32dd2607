import ThreatScan.Text.Basic
/-!
Points of time, and the forms in which reports and logs write them.
-/
namespace ThreatScan

structure Instant where
  year : Nat
  month : Nat
  day : Nat
  hour : Nat
  minute : Nat
  second : Nat
  micro : Nat
  deriving DecidableEq, Repr

namespace Instant

def date (t : Instant) : String :=
  Text.padded 4 t.year ++ "-" ++ Text.padded 2 t.month ++ "-" ++ Text.padded 2 t.day

def time (t : Instant) : String :=
  Text.padded 2 t.hour ++ ":" ++ Text.padded 2 t.minute ++ ":" ++ Text.padded 2 t.second

/-- The parts of a second; whole seconds have none. -/
def fraction (t : Instant) : String := if t.micro = 0 then "" else "." ++ Text.padded 6 t.micro

def text (t : Instant) : String := t.date ++ " " ++ t.time ++ t.fraction

def isoText (t : Instant) : String := t.date ++ "T" ++ t.time ++ t.fraction

/-- To the millisecond, as in logs. -/
def logText (t : Instant) : String := t.date ++ " " ++ t.time ++ "." ++ Text.padded 3 (t.micro / 1000)

def reportText (t : Instant) : String :=
  Text.padded 4 t.year ++ "年" ++ Text.padded 2 t.month ++ "月" ++ Text.padded 2 t.day ++ "日 " ++ t.time

/-- As in the names of reports. -/
def stamp (t : Instant) : String :=
  Text.padded 4 t.year ++ Text.padded 2 t.month ++ Text.padded 2 t.day ++ "_" ++
    Text.padded 2 t.hour ++ Text.padded 2 t.minute ++ Text.padded 2 t.second

/-- As in the names of logs. -/
def fineStamp (t : Instant) : String := t.stamp ++ "_" ++ Text.padded 6 t.micro

end Instant
end ThreatScan
