import ThreatScan.Clock
import ThreatScan.Disk.Basic
import ThreatScan.Text.Case
import ThreatScan.Value.Basic
/-!
The log of file operations: its entries, how they are written, and how they are read back.
-/
namespace ThreatScan

structure FileOperation where
  timestamp : String
  operation : String
  path : String
  mode : String
  sensitive : Bool
  deriving DecidableEq, Repr

structure LoggedOperation where
  operation : String
  path : String
  sensitive : Bool
  deriving DecidableEq, Repr

namespace FileLog

def sensitiveNames : List String :=
  ["/etc/passwd", "/etc/shadow", ".env", ".git/config", "config.json", "secrets.json", "credentials.json", "private_key",
   "id_rsa", "id_dsa"]

def isSensitive (path : String) : Bool := sensitiveNames.any (Text.contains path)

def record (now : Instant) (operation path mode : String) : FileOperation :=
  ⟨now.logText, operation, path, mode, isSensitive path⟩

def line (o : FileOperation) : String :=
  "[" ++ o.timestamp ++ "] " ++ (if o.sensitive then "[ALERT]" else "[INFO]") ++ " FILE " ++ Text.upper o.operation ++ ": " ++
    o.path ++ " (mode: " ++ o.mode ++ ")\n"

/-- Appends the line of an operation; a log that cannot be written stays as it is. -/
def append (d : Disk) (log : String) (o : FileOperation) : Disk :=
  match d.append log (line o) with
  | .ok d => d
  | .error _ => d

/-- The operation on a line: a line that holds the mark once, and a colon behind it. -/
def ofLine? (line : String) : Option LoggedOperation :=
  match Text.cut (Text.trim line) "FILE" with
  | [_, entry] =>
    match Text.cut (Text.trim entry) ":" with
    | operation :: path :: _ =>
      some ⟨Text.lower (Text.trim operation), Text.trim path, Text.contains line "[ALERT]"⟩
    | _ => none
  | _ => none

def ofText (text : String) : List LoggedOperation := (Text.lines text).filterMap ofLine?

/-- The operations of a log file; none if it cannot be read. -/
def read (d : Disk) (path : String) : List LoggedOperation :=
  match d.readText path with
  | .ok text => ofText text
  | .error _ => []

end FileLog

def FileOperation.toValue (o : FileOperation) : Value :=
  .dict [("timestamp", .str o.timestamp), ("operation", .str o.operation), ("file_path", .str o.path), ("mode", .str o.mode),
    ("is_sensitive", .bool o.sensitive)]

def LoggedOperation.toValue (o : LoggedOperation) : Value :=
  .dict [("operation", .str o.operation), ("file_path", .str o.path), ("is_sensitive", .bool o.sensitive)]

end ThreatScan
