import ThreatScan.Host.Basic
/-!
Syntax checks by the compilers of the host.

A host without the compiler accepts every file, with a remark. The Go compiler works on a copy in a temporary directory, the
Java compiler on the file itself, and the class file beside it is removed afterwards.
-/
namespace ThreatScan

structure BuildReport where
  valid : Bool
  errors : List String
  deriving DecidableEq, Repr

namespace BuildReport

def toValue (r : BuildReport) : Value := .dict [("valid", .bool r.valid), ("errors", .list (r.errors.map .str))]

def unavailable (compiler : String) : BuildReport := ⟨true, [compiler ++ " compiler not available, skipping syntax check"]⟩

def timeout : BuildReport := ⟨false, ["Syntax check timeout"]⟩

def failed (reason : String) : BuildReport := ⟨false, ["Syntax check error: " ++ reason]⟩

/-- What an exit code and the messages of the compiler mean. -/
def ofExit (code : Int) (errors : String) : BuildReport :=
  if code = 0 then ⟨true, []⟩
  else ⟨false, if errors.isEmpty then ["Unknown syntax error"] else Text.lines errors⟩

end BuildReport

namespace Host

def copyToTemp (path : String) : Act (String × String) := do
  let dir := Path.temp ++ "/tmp" ++ (← tempName)
  onDisk fun d => d.makeDir dir
  let target := Path.join dir (Path.baseName path)
  writeText target (← readText path)
  return (target, dir)

def dropTemp (file dir : String) : StateM Host Unit := do
  if ← remove file then
    modify fun h => { h with disk := h.disk.removeDir dir }

/-- Checks a Go file. The copy stays if the compiler does not come to an end. -/
def checkGo (path : String) : StateM Host BuildReport := do
  let compiler := (← get).goCompiler
  if !compiler.available then return .unavailable "Go"
  match ← Act.attempt (copyToTemp path) with
  | .error e => return .failed e.message
  | .ok (file, dir) =>
    match compiler.outcome with
    | .timedOut => return .timeout
    | .failed reason => return .failed reason
    | .finished code errors _ =>
      dropTemp file dir
      return .ofExit code errors

def classFile (path : String) : String := Text.replace path ".java" ".class"

/-- Leaves a class file, as the compiler may. -/
def leaveClass (path : String) (leaves : Bool) : Act Unit := do
  if leaves then writeText (classFile path) ""

def checkJava (path : String) : StateM Host BuildReport := do
  let compiler := (← get).javaCompiler
  if !compiler.available then return .unavailable "Java"
  match compiler.outcome with
  | .timedOut => return .timeout
  | .failed reason => return .failed reason
  | .finished code errors leaves =>
    match ← Act.attempt (leaveClass path leaves) with
    | .error e => return .failed e.message
    | .ok _ =>
      if (← get).disk.has (classFile path) then
        let _ ← remove (classFile path)
      return .ofExit code errors

end Host
end ThreatScan
