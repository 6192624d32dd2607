import ThreatScan.Hook.Opening
import ThreatScan.Value.Display
/-!
The places where calls are intercepted: functions that start programs, open connections or open files.

Each place has a signature. A call is completed by it: arguments are bound to parameters and defaults are filled in, and
a call that does not fit is refused before anything is logged. The completed call is what is logged and passed on.
-/
namespace ThreatScan.Hook

inductive Place where
  | system | popen | connect | call | run | spawn | openFile | openDescriptor
  deriving DecidableEq, Repr

/-- The arguments of a call, by position and by name. -/
structure Call where
  args : List Value
  named : List (String × Value)

inductive CallError where
  | badArguments
  /-- The address of a connection has fewer than two parts. -/
  | shortAddress
  | notCallable
  | failed (text : String)
  | notOpened (e : OpenError)
  /-- The chain of functions that pass the call on has no end. -/
  | endless

def CallError.message : CallError → String
  | .badArguments => "the arguments do not fit"
  | .shortAddress => "tuple index out of range"
  | .notCallable => "'NoneType' object is not callable"
  | .failed text => text
  | .notOpened e => e.message
  | .endless => "maximum recursion depth exceeded"

/-- A parameter: its name and its default, if it has one. -/
abbrev Parameter := String × Option Value

/-- What a place accepts: parameters that can be given by position, and parameters given by name only; or anything. -/
inductive Signature where
  | fixed (parameters : List Parameter) (namedOnly : List Parameter)
  | free

/-- Binds arguments to parameters: those given by position first, the others by name or default. -/
def bindArgs (named : List (String × Value)) : List Parameter → List Value → Option (List Value)
  | [], [] => some []
  | [], _ :: _ => none
  | (name, _) :: ps, v :: vs =>
    if (Value.fieldOf? name named).isSome then none else (bindArgs named ps vs).map (v :: ·)
  | (name, default) :: ps, [] =>
    match Value.fieldOf? name named, default with
    | some v, _ => (bindArgs named ps []).map (v :: ·)
    | none, some v => (bindArgs named ps []).map (v :: ·)
    | none, none => none

namespace Place

def all : List Place := [.system, .popen, .connect, .call, .run, .spawn, .openFile, .openDescriptor]

def label : Place → String
  | .system => "os.system"
  | .popen => "os.popen"
  | .connect => "socket.connect"
  | .call => "subprocess.call"
  | .run => "subprocess.run"
  | .spawn => "subprocess.Popen"
  | .openFile => "open()"
  | .openDescriptor => "os.open()"

def signature : Place → Signature
  | .system => .fixed [("command", none)] []
  | .popen => .fixed [("command", none), ("mode", some (.str "r")), ("buffering", some (.int (-1)))] []
  | .connect => .fixed [("self_socket", none), ("address", none)] []
  | .call => .free
  | .run => .free
  | .spawn => .free
  | .openFile =>
    .fixed [("file", none), ("mode", some (.str "r")), ("buffering", some (.int (-1))), ("encoding", some .null),
      ("errors", some .null), ("newline", some .null), ("closefd", some (.bool true)), ("opener", some .null)] []
  | .openDescriptor => .fixed [("path", none), ("flags", none), ("mode", some (.int 511))] [("dir_fd", some .null)]

/-- The call with all parameters given; none if the arguments do not fit. A free call must not name the receiver. -/
def complete (p : Place) (c : Call) : Option Call :=
  match p.signature with
  | .free => if (Value.fieldOf? "self" c.named).isSome then none else some c
  | .fixed parameters namedOnly =>
    if c.named.all fun f => (parameters ++ namedOnly).any fun q => q.1 == f.1 then do
      let args ← bindArgs c.named parameters c.args
      let named ← bindArgs c.named namedOnly []
      some ⟨args, (namedOnly.map (·.1)).zip named⟩
    else none

/-- The address of a connection in the log: host and port of a tuple, anything else as it is. -/
def addressText : Value → Except CallError String
  | .tuple (host :: port :: _) => .ok (host.display ++ ":" ++ port.display)
  | .tuple _ => .error .shortAddress
  | v => .ok v.display

/-- A list of arguments in the log; an empty one is left out. -/
def argsText (args : List Value) : String := if args.isEmpty then "" else (Value.tuple args).display

def namedText (named : List (String × Value)) : String := if named.isEmpty then "" else (Value.dict named).display

def arg (c : Call) (i : Nat) : Value := (c.args[i]?).getD .null

def alert (p : Place) (c : Call) : Except CallError String :=
  match p with
  | .system => .ok ("SYSCALL: os.system called with command='" ++ (arg c 0).display ++ "'")
  | .popen =>
    .ok ("SYSCALL: os.popen called with command='" ++ (arg c 0).display ++ "', mode='" ++ (arg c 1).display ++ "'")
  | .connect => do
    let address ← addressText (arg c 1)
    return "NETWORK: socket.connect called with address='" ++ address ++ "'"
  | .openFile =>
    .ok ("FILE OPEN: open() called with file='" ++ (arg c 0).display ++ "', mode='" ++ (arg c 1).display ++ "'")
  | .openDescriptor =>
    .ok ("FILE OPEN: os.open() called with path='" ++ (arg c 0).display ++ "', flags=" ++ (arg c 1).display ++ ", mode=" ++
      (arg c 2).display)
  | p => .ok ("SYSCALL: " ++ p.label ++ " called with args=" ++ argsText c.args ++ ", kwargs=" ++ namedText c.named)

end Place
end ThreatScan.Hook
