import ThreatScan.Log.NetworkLog
import ThreatScan.Sandbox.Run
/-!
Running a program on random and on suspicious arguments, and watching for crashes.
-/
namespace ThreatScan

structure FuzzResult where
  input : String
  code : Int
  crashed : Bool
  output : String
  errors : String
  elapsed : Value
  logFile : String
  activities : List NetworkActivity
  timedOut : Bool
  failure : Option String

namespace FuzzResult

def toValue (r : FuzzResult) : Value :=
  .dict ([("test_input", .str r.input), ("return_code", .int r.code), ("crashed", .bool r.crashed), ("stdout", .str r.output),
    ("stderr", .str r.errors), ("execution_time", r.elapsed), ("log_file", .str r.logFile),
    ("network_activities", .list (r.activities.map NetworkActivity.toValue)), ("timed_out", .bool r.timedOut)] ++
    match r.failure with
    | some e => [("error", .str e)]
    | none => [])

end FuzzResult

namespace Fuzz

def alphabet : List Char :=
  "abcdefghijklmnopqrstuvwxyzABCDEFGHIJKLMNOPQRSTUVWXYZ0123456789;|&><$`\"'\\".toList

/-- Arguments that break out of badly built commands. -/
def injections : List String :=
  ["; ls", "| cat /etc/passwd", "& whoami", "`id`", "$(whoami)", "\"> /tmp/test", "' || 1=1 --", "; rm -rf /", "| nc -l 1234"]

def randomChars : Nat → StateM Host (List Char)
  | 0 => return []
  | n + 1 => do return (← Host.randomItem 'a' alphabet) :: (← randomChars n)

def randomText (low high : Int) : Act String := do
  let length ← Host.randomBetween low high
  return String.ofList (← Act.always (randomChars length.toNat))

def randomTexts : Nat → Act (List String)
  | 0 => return []
  | n + 1 => do return (← randomText 1 50) :: (← randomTexts n)

/-- The first `n` items of a list; a negative number counts from the end. -/
def front {α : Type} (n : Int) (xs : List α) : List α :=
  if n < 0 then xs.take (xs.length - n.natAbs) else xs.take n.toNat

/-- The arguments to test with: random ones, and then as many suspicious ones. -/
def cases (count : Int) : Act (List String) := do
  let random ← randomTexts count.toNat
  return front (count * 2) (random ++ front (min count injections.length) injections)

/-- A run that ended with an error, or wrote about one, is a crash. -/
def isCrash (r : SandboxResult) : Bool :=
  r.code != 0 || Text.contains r.errors "Traceback" || Text.contains r.errors "Error" || r.timedOut

/-- Runs the program once and reads what it did on the network. -/
def observe (target : String) (timeout : Value) (input : String) : Act (SandboxResult × List NetworkActivity) := do
  let r ← Sandbox.run target [input] timeout none
  return (r, ← Act.valid (NetworkLog.read (← get).disk r.logFile))

/-- One test. A run that cannot even be started, or whose log cannot be understood, counts as a crash. -/
def test (target : String) (timeout : Value) (input : String) : StateM Host FuzzResult := do
  match ← Act.attempt (observe target timeout input) with
  | .error e => return ⟨input, -1, true, "", e.message, .float (Binary64.ofInt 0), "", [], false, some e.message⟩
  | .ok (r, activities) =>
    return ⟨input, r.code, isCrash r, r.output, r.errors, r.elapsed, r.logFile, activities, r.timedOut, none⟩

def run (target : String) (count : Int) (timeout : Value) : Act (List FuzzResult) := do
  (← cases count).mapM fun input => Act.always (test target timeout input)

end Fuzz
end ThreatScan
