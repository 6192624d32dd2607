import Std.Time.Format
import ThreatScan.CommandLine
import ThreatScan.Value.Indented
/-!
The program. It gathers the files that an analysis may read, runs the analysis on them, prints what the analysis prints
and writes the files that it wrote.

No compiler and no child process is started. The tree of a Python file comes from a file beside it.
-/
namespace ThreatScan.Program

def bytesOf? (path : String) : IO (Option (List UInt8)) := do
  try
    return some (← IO.FS.readBinFile path).toList
  catch _ => return none

def gather (paths : List String) : IO Disk :=
  paths.foldlM (fun d path => do
    match ← bytesOf? path with
    | some bytes => return d.plant path (.file (.bytes bytes) none)
    | none => return d) Disk.empty

def parserFor (path : String) : IO Parser := do
  let hint ← match ← bytesOf? (CommandLine.treeFile path) with
    | some bytes => pure (Value.read? (Disk.lenientTextOf (.bytes bytes)))
    | none => pure none
  let unknown := Value.dict [("parse_error", .dict [("kind", .str "Error"), ("message", .str "no tree of the file")])]
  return fun _ => Parse.ofValue (hint.getD unknown)

def now : IO Instant := do
  let t ← Std.Time.PlainDateTime.now
  return ⟨t.year.toInt.toNat, t.month.toNat, t.day.toNat, t.hour.val.toNat, t.minute.val.toNat, t.second.val.toNat,
    t.nanosecond.val.toNat / 1000⟩

def notStarted : ChildRun := ⟨0, "", "", [], false, some "child processes are not started", false, .ofInt 0⟩

def drawsFrom (seed i : Nat) : Nat := (seed + i) * 2654435761 % 4294967296

def hostFor (path : String) : IO Host := do
  let seed ← IO.rand 0 4294967295
  return { disk := ← gather (CommandLine.inputs path)
           now := ← now
           parser := ← parserFor path
           loader := fun text => match Value.readIndented? text with
             | some v => .ok v
             | none => .error "ParserError"
           goCompiler := ⟨false, .timedOut⟩
           javaCompiler := ⟨false, .timedOut⟩
           runs := fun _ => notStarted
           started := 0
           draws := drawsFrom seed
           drawn := 0
           named := 0
           canRemove := true
           printed := "" }

/-- The path of a location outside the directory of temporary files. -/
def pathOf? (l : Location) : Option String :=
  if Disk.tempPlace.isPrefixOf l then none
  else some ((Disk.below Disk.workPlace l).getD ("/" ++ Text.join "/" l))

def bytesOf : Content → ByteArray
  | .text s => s.toUTF8
  | .bytes bs => ⟨bs.toArray⟩

def writeFile (path : String) (c : Content) : IO Unit := do
  let dir := Path.dirName path
  if !dir.isEmpty then IO.FS.createDirAll dir
  IO.FS.writeBinFile path (bytesOf c)

def writeNew (before after : Disk) : IO Unit :=
  after.entries.forM fun
    | (l, .file c _) =>
      match before.get? l, pathOf? l with
      | none, some path => writeFile path c
      | _, _ => return ()
    | (_, .dir) => return ()

end ThreatScan.Program

open ThreatScan in
def main (args : List String) : IO UInt32 := do
  let host ← Program.hostFor (args.headD "")
  let (result, after) := (CommandLine.run args).run.run host
  IO.print after.printed
  Program.writeNew host.disk after.disk
  match result with
  | .ok () => return 0
  | .error e =>
    IO.eprintln e.message
    return 1
