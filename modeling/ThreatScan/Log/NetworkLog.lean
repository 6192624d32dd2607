import ThreatScan.Disk.Basic
import ThreatScan.Text.Expect
import ThreatScan.Text.Integer
import ThreatScan.Text.Order
import ThreatScan.Value.Basic
/-!
Network activity read from a log of intercepted calls.

An entry is a time stamp in brackets, the alert mark, the kind of call, and the address between quotes. An address that
is written as a pair is taken apart; then the number of the port must not have too many digits.
-/
namespace ThreatScan

/-- The address of an activity: as it stands, or host and port. -/
inductive Address where
  | text (s : String)
  | pair (host : String) (port : String) (number : Nat)
  deriving DecidableEq, Repr

structure NetworkActivity where
  kind : String
  timestamp : String
  line : String
  address : Address
  deriving DecidableEq, Repr

namespace Address

def target : Address → String
  | .text s => s
  | .pair host port _ => host ++ ":" ++ port

def toValue : Address → Value
  | .text s => .str s
  | .pair host _ number => .tuple [.str host, .int number]

/-- The texts of host and port, if the text starts with a pair of them in parentheses. -/
def pair? (s : List Char) : Option (List Char × List Char) := do
  let s ← Text.literal? "(" s
  let (host, s) ← Text.run? (· != ',') s
  let s ← Text.literal? "," s
  let (port, s) ← Text.run? Text.isDecimalDigit (s.dropWhile Text.isBlank)
  let _ ← Text.literal? ")" s
  some (host, port)

def ofText (s : List Char) : Except Fault Address :=
  match pair? s with
  | none => .ok (.text (String.ofList s))
  | some (host, port) =>
    match Text.number? port with
    | some n => .ok (.pair (String.ofList host) (String.ofList port) n)
    | none => .error (.tooManyDigits port.length)

end Address

namespace NetworkLog

def isQuote (c : Char) : Bool := c == '"' || c == '\''

/-- The kind of call: connecting or binding. -/
def kind? (s : List Char) : Option (String × List Char) :=
  match Text.literal? "connect" s with
  | some rest => some ("connect", rest)
  | none => (Text.literal? "bind" s).map fun rest => ("bind", rest)

/-- The text between a quote and the next. -/
def quoted? (s : List Char) : Option (List Char) :=
  match s with
  | q :: rest =>
    if isQuote q then
      match Text.run? (!isQuote ·) rest with
      | some (text, _ :: _) => some text
      | _ => none
    else none
  | [] => none

def entry? (s : List Char) : Option (List Char × String × List Char) := do
  let s ← Text.literal? "[" s
  let (stamp, s) ← Text.run? (· != ']') s
  let s ← Text.gap? (← Text.literal? "]" s)
  let s ← Text.gap? (← Text.literal? "[ALERT]" s)
  let s ← Text.gap? (← Text.literal? "NETWORK:" s)
  let (kind, s) ← kind? (← Text.literal? "socket." s)
  let s ← Text.gap? s
  let s ← Text.gap? (← Text.literal? "called" s)
  let s ← Text.gap? (← Text.literal? "with" s)
  let address ← quoted? (← Text.literal? "address=" s)
  some (stamp, kind, address)

def ofLine (line : String) : Except Fault (Option NetworkActivity) :=
  match Text.firstOf? entry? line.toList with
  | none => .ok none
  | some (stamp, kind, address) => do
    return some ⟨kind, String.ofList stamp, Text.trim line, ← Address.ofText address⟩

def ofText (text : String) : Except Fault (List NetworkActivity) := do
  return (← (Text.lines text).mapM ofLine).filterMap id

/-- The activities of a log file; none if it cannot be read. -/
def read (d : Disk) (path : String) : Except Fault (List NetworkActivity) :=
  match d.readText path with
  | .ok text => ofText text
  | .error _ => .ok []

end NetworkLog

def NetworkActivity.toValue (a : NetworkActivity) : Value :=
  .dict [("type", .str a.kind), ("target", .str a.address.target), ("timestamp", .str a.timestamp), ("line", .str a.line),
    ("raw_address", a.address.toValue)]

structure NetworkSummary where
  total : Nat
  targets : List Value
  connects : Nat
  binds : Nat

namespace NetworkSummary

def empty : NetworkSummary := ⟨0, [], 0, 0⟩

def add (s : NetworkSummary) (activity : Value) : Except Fault NetworkSummary := do
  let target ← activity.require "target"
  target.hashable
  let targets := if s.targets.any target.same then s.targets else s.targets ++ [target]
  let kind ← activity.require "type"
  return { total := s.total + 1
           targets
           connects := if kind.same (.str "connect") then s.connects + 1 else s.connects
           binds := if kind.same (.str "bind") then s.binds + 1 else s.binds }

/-- Order of two targets: texts by their characters, numbers by value; others have none. -/
def before (a b : Value) : Except Fault Bool :=
  match a, b with
  | .str s, .str t => .ok (decide (s < t))
  | a, b => a.lessThan "<" b

def insertTarget (v : Value) : List Value → Except Fault (List Value)
  | [] => .ok [v]
  | w :: rest => do
    if ← before v w then return v :: w :: rest
    return w :: (← insertTarget v rest)

def sortTargets (targets : List Value) : Except Fault (List Value) :=
  targets.foldlM (fun sorted v => insertTarget v sorted) []

/-- The summary of a list of activities: how many, of which kind, and their distinct targets in order. -/
def ofActivities (activities : Value) : Except Fault NetworkSummary := do
  if !activities.truthy then return empty
  let s ← (← activities.items).foldlM add empty
  return { s with targets := ← sortTargets s.targets }

def toValue (s : NetworkSummary) : Value :=
  .dict [("total_connections", .int s.total), ("unique_targets", .list s.targets), ("connect_count", .int s.connects),
    ("bind_count", .int s.binds)]

end NetworkSummary
end ThreatScan
