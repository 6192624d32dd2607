import ThreatScan.Archive.Basic
import ThreatScan.Clock
import ThreatScan.Outline.Read
import ThreatScan.Syntax.Parse
/-!
The host that an analysis runs on: its disk and clock, the parser and the reader of settings, the compilers, the child
processes and the random numbers, and what was printed.

An action may fail; what it did to the host until then stays done.
-/
namespace ThreatScan

inductive BuildOutcome where
  /-- With an exit code and what the compiler wrote; a class file may be left. -/
  | finished (code : Int) (errors : String) (classFile : Bool)
  | timedOut
  | failed (reason : String)
  deriving DecidableEq, Repr

structure Compiler where
  available : Bool
  outcome : BuildOutcome
  deriving DecidableEq, Repr

/-- How a child process behaves: what it appends to the log of the sandbox, whether it removes the log, and how it ends. -/
structure ChildRun where
  code : Int
  output : String
  errors : String
  log : List String
  dropsLog : Bool
  failure : Option String
  timedOut : Bool
  elapsed : Binary64

/-- The host. Child processes and random draws are numbered from zero. -/
structure Host where
  disk : Disk
  now : Instant
  parser : Parser
  loader : String → Except String Value
  goCompiler : Compiler
  javaCompiler : Compiler
  runs : Nat → ChildRun
  started : Nat
  draws : Nat → Nat
  drawn : Nat
  named : Nat
  canRemove : Bool
  printed : String

inductive Failure where
  | fault (f : Fault)
  | disk (e : DiskError)
  | decode (e : Text.DecodeError)
  | source (e : SourceError)
  | tree (e : TreeError)
  | outline (e : OutlineError)
  | unsupported (language : String)
  | notStarted (reason : String)
  | emptyRange
  /-- A settings file is malformed; the reader names the kind of mistake. -/
  | settings (kind : String)
  | archive (e : Archive.ArchiveError)
  | chart (reason : String)

def Failure.message : Failure → String
  | .fault f => f.message
  | .disk e => e.message
  | .decode e => e.message
  | .source e => e.message
  | .tree e => e.message
  | .outline e => e.message
  | .unsupported language =>
    "Unsupported language: " ++ language ++ ". Supported languages: Python, Go, Java"
  | .notStarted reason => reason
  | .emptyRange => "empty range for randint"
  | .settings kind => kind
  | .archive e => e.message
  | .chart reason => reason

abbrev Act := ExceptT Failure (StateM Host)

namespace Act

def fail {α : Type} (e : Failure) : Act α := throw e

/-- A result that may be a failure of another sort. -/
def check {ε α : Type} (wrap : ε → Failure) : Except ε α → Act α
  | .ok a => pure a
  | .error e => throw (wrap e)

def valid {α : Type} (x : Except Fault α) : Act α := check .fault x

def attempt {α : Type} (x : Act α) : StateM Host (Except Failure α) := x.run

def always {α : Type} (x : StateM Host α) : Act α := ExceptT.lift x

end Act

namespace Host

def print (line : String) : StateM Host Unit := modify fun h => { h with printed := h.printed ++ line ++ "\n" }

/-- The next temporary name: a number of eight digits. -/
def tempName : StateM Host String := do
  modify fun h => { h with named := h.named + 1 }
  return Text.padded 8 (← get).named

def textError : TextError → Failure
  | .disk e => .disk e
  | .decode e => .decode e

def readText (path : String) : Act String := do
  Act.check textError ((← get).disk.readText path)

def onDisk (operation : Disk → Except DiskError Disk) : Act Unit := do
  let d ← Act.check Failure.disk (operation (← get).disk)
  modify fun h => { h with disk := d }

def writeText (path text : String) : Act Unit := onDisk fun d => d.write path (.text text)

def makeDirs (path : String) : Act Unit := onDisk fun d => d.makeDirs path

def remove (path : String) : StateM Host Bool := do
  let h ← get
  if h.canRemove then
    match h.disk.remove path with
    | .ok d => set { h with disk := d }; return true
    | .error _ => return false
  else return false

/-- The next random number between two bounds, both included. -/
def randomBetween (low high : Int) : Act Int := do
  if high < low then Act.fail .emptyRange
  let h ← get
  set { h with drawn := h.drawn + 1 }
  return low + Int.emod (h.draws h.drawn) (high - low + 1)

def randomItem {α : Type} (default : α) (items : List α) : StateM Host α := do
  let h ← get
  set { h with drawn := h.drawn + 1 }
  return (items[h.draws h.drawn % items.length]?).getD default

def nextRun : StateM Host ChildRun := do
  let h ← get
  set { h with started := h.started + 1 }
  return h.runs h.started

end Host
end ThreatScan
