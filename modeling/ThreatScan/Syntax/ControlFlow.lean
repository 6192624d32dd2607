import ThreatScan.Syntax.Instruction
/-!
Control structures of a module: conditionals, loops and exception handlers, with the lines that they cover.
-/
namespace ThreatScan

/-- What a control structure decides on. -/
inductive FlowHead where
  | ifThen (condition : String)
  | forEach (target iter : String)
  | whileTrue (condition : String)
  | tryBlock (handlers finals : List Nat)
  deriving DecidableEq, Repr

structure FlowStructure where
  head : FlowHead
  startLine : Nat
  endLine : Nat
  bodyLines : List Nat
  elseLines : List Nat
  deriving DecidableEq, Repr

/-- A number put into a strictly increasing list. -/
def insertLine (n : Nat) : List Nat → List Nat
  | [] => [n]
  | m :: rest => if n < m then n :: m :: rest else if n = m then m :: rest else m :: insertLine n rest

/-- The members of a list in strictly increasing order. -/
def sortedLines (ns : List Nat) : List Nat := ns.foldr insertLine []

namespace Tree

def isFlow (k : String) : Bool := ["If", "For", "While", "Try"].contains k

mutual

/-- The line of a statement and, for a control structure, the lines of all its branches. Handlers and a last branch are
those of `Try` alone. -/
def flowLines : Tree → List Nat
  | .node k p parts =>
    (p.map (·.line)).toList ++
      if isFlow k then
        flowLinesIn "body" parts ++ (if k = "Try" then handlerLinesIn parts else []) ++ flowLinesIn "orelse" parts ++
          if k = "Try" then flowLinesIn "finalbody" parts else []
      else []
  | _ => []

def flowLinesOf : List Tree → List Nat
  | [] => []
  | t :: ts => flowLines t ++ flowLinesOf ts

def flowLinesIn (key : String) : List (String × Tree) → List Nat
  | [] => []
  | (k, t) :: rest => if k = key then branchLines t else flowLinesIn key rest

def branchLines : Tree → List Nat
  | .list ts => flowLinesOf ts
  | _ => []

def handlerLinesIn : List (String × Tree) → List Nat
  | [] => []
  | (k, t) :: rest => if k = "handlers" then handlerLines t else handlerLinesIn rest

def handlerLines : Tree → List Nat
  | .list ts => handlerLinesOf ts
  | _ => []

def handlerLinesOf : List Tree → List Nat
  | [] => []
  | t :: ts => handledLines t ++ handlerLinesOf ts

def handledLines : Tree → List Nat
  | .node _ _ parts => flowLinesIn "body" parts
  | _ => []

end

def bodyLines (body : List Tree) : List Nat := sortedLines (flowLinesOf body)

def lastTopLine (body : List Tree) : Nat := (topLines body).foldl max 0

mutual

/-- An estimate of the last line of a control structure: the greatest line in its body, followed into nested structures,
and of the statements of its other branches. -/
def endLine : Tree → Nat
  | .node _ p parts =>
    max ((p.map (·.line)).getD 0)
      (max (endLineIn parts)
        (max (lastTopLine (partOf "orelse" parts).items) (lastTopLine (partOf "finalbody" parts).items)))
  | .list ts => endLineOf ts
  | _ => 0

def endLineIn : List (String × Tree) → Nat
  | [] => 0
  | (k, t) :: rest => if k = "body" then endLineBody t else endLineIn rest

def endLineBody : Tree → Nat
  | .list ts => endLineOf ts
  | _ => 0

def endLineOf : List Tree → Nat
  | [] => 0
  | t :: ts => max (if isFlow t.kind then endLine t else t.line) (endLineOf ts)

end

def cut50 (t : Tree) : String := String.ofList (t.dump.toList.take 50)

mutual

/-- A short text of a condition: names, attributes of names, the first comparison, calls and constants; of any other
expression the first fifty characters of its full text. -/
def gist : Tree → String
  | .node k p parts =>
    let t := Tree.node k p parts
    if k = "Name" then (partOf "id" parts).text
    else if k = "Attribute" then
      match t.asDotted? with
      | some (n, a) => n ++ "." ++ a
      | none => cut50 t
    else if k = "Compare" then
      match (partOf "ops" parts).items with
      | op :: _ =>
        match (partOf "comparators" parts).items with
        | [] => cut50 t
        | _ => gistPart "left" parts ++ " " ++ op.kind ++ " " ++ gistFirst "comparators" parts
      | [] => cut50 t
    else if k = "Call" then
      match (partOf "func" parts).variableName? with
      | some n => n ++ "(...)"
      | none => cut50 t
    else if k = "Constant" then (partOf "value" parts).dump
    else cut50 t
  | t => cut50 t

def gistPart (key : String) : List (String × Tree) → String
  | [] => ""
  | (k, t) :: rest => if k = key then gist t else gistPart key rest

def gistFirst (key : String) : List (String × Tree) → String
  | [] => ""
  | (k, t) :: rest => if k = key then gistHead t else gistFirst key rest

def gistHead : Tree → String
  | .list ts => gistHeadOf ts
  | t => gist t

def gistHeadOf : List Tree → String
  | [] => ""
  | t :: _ => gist t

end

def flowStructure? (t : Tree) : Option FlowStructure :=
  let of := fun (head : FlowHead) =>
    some ⟨head, t.line, t.endLine, bodyLines (t.partItems "body"), bodyLines (t.partItems "orelse")⟩
  match t.kind with
  | "If" => of (.ifThen (t.part "test").gist)
  | "For" => of (.forEach (t.part "target").gist (t.part "iter").gist)
  | "While" => of (.whileTrue (t.part "test").gist)
  | "Try" =>
    of (.tryBlock ((t.partItems "handlers").flatMap fun h => bodyLines (h.partItems "body"))
      (bodyLines (t.partItems "finalbody")))
  | _ => none

def flowStructures (t : Tree) : List FlowStructure := t.preorder.filterMap flowStructure?

end Tree

def FlowHead.label : FlowHead → String
  | .ifThen _ => "if"
  | .forEach _ _ => "for"
  | .whileTrue _ => "while"
  | .tryBlock _ _ => "try"

def FlowStructure.toValue (s : FlowStructure) : Value :=
  let head : List (String × Value) :=
    [("type", .str s.head.label), ("start_line", .int s.startLine), ("end_line", .int s.endLine)]
  match s.head with
  | .ifThen c =>
    .dict (head ++ [("condition", .str c), ("body_lines", lineList s.bodyLines), ("else_lines", lineList s.elseLines)])
  | .whileTrue c =>
    .dict (head ++ [("condition", .str c), ("body_lines", lineList s.bodyLines), ("else_lines", lineList s.elseLines)])
  | .forEach target iter =>
    .dict (head ++ [("target", .str target), ("iter", .str iter), ("body_lines", lineList s.bodyLines),
      ("else_lines", lineList s.elseLines)])
  | .tryBlock handlers finals =>
    .dict (head ++ [("body_lines", lineList s.bodyLines), ("except_lines", lineList handlers),
      ("else_lines", lineList s.elseLines), ("finally_lines", lineList finals)])

end ThreatScan
