import ThreatScan.Syntax.Dump
import ThreatScan.Text.Order
/-!
Taint flows in a syntax tree: untrusted input that reaches a dangerous call.

Input enters through the command line arguments and through reading a line. An assignment whose value is an input, or a
variable tainted before, taints its targets. A dangerous call with a tainted argument is a flow. The nodes of the tree are
met once, in their order, and a variable stays tainted from then on.
-/
namespace ThreatScan

structure TaintSource where
  source : String
  line : Nat
  target : String
  deriving DecidableEq, Repr

structure TaintSink where
  sink : String
  line : Nat
  args : List String
  deriving DecidableEq, Repr

/-- Input that reaches a dangerous call, directly or through a variable. -/
structure TaintFlow where
  source : String
  sink : String
  sourceLine : Nat
  sinkLine : Nat
  via : Option String
  deriving DecidableEq, Repr

/-- What is known while the nodes are met. `assigned` gives the line at which a variable was tainted last. -/
structure TaintState where
  sources : List TaintSource
  sinks : List TaintSink
  flows : List TaintFlow
  tainted : List String
  assigned : List (String × Nat)
  deriving DecidableEq, Repr

namespace Tree

/-- The node brings in untrusted input: an element of the command line arguments, or a line that is read. -/
def isInput (t : Tree) : Bool :=
  if t.is "Subscript" then (t.part "value").asDotted? == some ("sys", "argv")
  else if t.is "Call" then
    match (t.part "func").asName? with
    | some n => n == "input" || n == "raw_input"
    | none => false
  else false

def dangerousCall? (t : Tree) : Option String :=
  match (t.part "func").asName?, (t.part "func").asDotted? with
  | some n, _ => if n == "eval" || n == "exec" then some n else none
  | none, some (m, a) =>
    if m == "os" && (a == "system" || a == "popen") then some ("os." ++ a)
    else if m == "subprocess" && (a == "call" || a == "run" || a == "Popen") then some ("subprocess." ++ a)
    else none
  | none, none => none

mutual

/-- A short text of a value: names, attributes and elements of attributes of names, calls of names, sums and constants;
any other expression in full. -/
def outline : Tree → String
  | .node k p parts =>
    let t := Tree.node k p parts
    if k = "Name" then (partOf "id" parts).text
    else if k = "Attribute" then
      match t.asDotted? with
      | some (n, a) => n ++ "." ++ a
      | none => t.dump
    else if k = "Subscript" then
      match (partOf "value" parts).asDotted? with
      | some (n, a) => n ++ "." ++ a ++ "[...]"
      | none => t.dump
    else if k = "Call" then
      match (partOf "func" parts).asName? with
      | some n => n ++ "(...)"
      | none => t.dump
    else if k = "BinOp" then outlinePart "left" parts ++ " + " ++ outlinePart "right" parts
    else if k = "Constant" then (partOf "value" parts).dump
    else t.dump
  | t => t.dump

def outlinePart (key : String) : List (String × Tree) → String
  | [] => ""
  | (k, t) :: rest => if k = key then outline t else outlinePart key rest

end

end Tree

namespace TaintState

def empty : TaintState := ⟨[], [], [], [], []⟩

def isTainted (s : TaintState) (name : String) : Bool := s.tainted.contains name

def assignedLine? (s : TaintState) (name : String) : Option Nat := s.assigned.lookup name

/-- The lines with that of one name noted: in its place if it is there, else at the end. -/
def noteLine (name : String) (line : Nat) : List (String × Nat) → List (String × Nat)
  | [] => [(name, line)]
  | (n, l) :: rest => if n = name then (n, line) :: rest else (n, l) :: noteLine name line rest

def taint (line : Nat) (source : String) (s : TaintState) (name : String) : TaintState :=
  { s with
    sources := s.sources ++ [⟨source, line, name⟩]
    tainted := if s.tainted.contains name then s.tainted else s.tainted ++ [name]
    assigned := noteLine name line s.assigned }

def valueTainted (s : TaintState) (value : Tree) : Bool :=
  value.isInput || value.variableName?.any s.isTainted

def assign (s : TaintState) (t : Tree) : TaintState :=
  let value := t.part "value"
  if s.valueTainted value then
    ((t.partItems "targets").filterMap Tree.variableName?).foldl (taint t.line value.outline) s
  else s

def flow? (s : TaintState) (sink : String) (line : Nat) (arg : Tree) : Option TaintFlow :=
  if arg.isInput then some ⟨arg.outline, sink, line, line, none⟩
  else
    match arg.variableName? with
    | some name =>
      if s.isTainted name then some ⟨arg.outline, sink, (s.assignedLine? name).getD line, line, some name⟩ else none
    | none => none

def call (s : TaintState) (t : Tree) : TaintState :=
  match t.dangerousCall? with
  | none => s
  | some sink =>
    let args := t.partItems "args"
    { s with
      sinks := s.sinks ++ [⟨sink, t.line, args.map Tree.outline⟩]
      flows := s.flows ++ args.filterMap (s.flow? sink t.line) }

def step (s : TaintState) (t : Tree) : TaintState :=
  if t.is "Assign" then s.assign t else if t.is "Call" then s.call t else s

end TaintState

/-- What is known after all nodes of a tree. -/
def Tree.taint (t : Tree) : TaintState := t.preorder.foldl TaintState.step .empty

def Tree.taintFlows (t : Tree) : List TaintFlow := t.taint.flows

def TaintSource.toValue (s : TaintSource) : Value :=
  .dict [("source", .str s.source), ("line", .int s.line), ("tainted_var", .str s.target)]

def TaintSink.toValue (s : TaintSink) : Value :=
  .dict [("sink", .str s.sink), ("line", .int s.line), ("args", .list (s.args.map .str))]

def TaintFlow.toValue (f : TaintFlow) : Value :=
  .dict ([("source", .str f.source), ("sink", .str f.sink), ("source_line", .int f.sourceLine),
    ("sink_line", .int f.sinkLine), ("severity", .str "critical")] ++
    match f.via with
    | none => [("type", .str "direct")]
    | some v => [("type", .str "variable_flow"), ("tainted_var", .str v)])

def TaintState.toValue (s : TaintState) : Value :=
  .dict [("flows", .list (s.flows.map (·.toValue))), ("sources", .list (s.sources.map (·.toValue))),
    ("sinks", .list (s.sinks.map (·.toValue))), ("tainted", .list ((Text.sortedTexts s.tainted).map .str)),
    ("assignments", .dict (s.assigned.map fun (n, l) => (n, .int l)))]

/-- Whether a flow is cleaned on its way. What happens between its ends is not followed, so none is taken to be. -/
def isFiltered (_flow : Value) : Bool := false

def TaintFlow.pathValue (f : TaintFlow) : Value :=
  .dict [("source", .str f.source), ("source_line", .int f.sourceLine), ("sink", .str f.sink),
    ("sink_line", .int f.sinkLine),
    ("path", .list [.dict [("line", .int f.sourceLine), ("type", .str "source")],
      .dict [("line", .int f.sinkLine), ("type", .str "sink")]]),
    ("filtered", .bool false)]

end ThreatScan
