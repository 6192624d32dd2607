import ThreatScan.Syntax.Dump
import ThreatScan.Syntax.Symbols
/-!
A module as a linear list of instructions, in the order in which its nodes are met.
-/
namespace ThreatScan

/-- One step of a module: a call, an assignment, an import, a control structure or a definition. -/
inductive Instruction where
  | call (func : String) (args : List String) (place : Position)
  | assign (target value : String) (place : Position)
  | importing (module : String) (name : Option String) (boundName : String) (place : Position)
  | ifThen (condition : String) (body orelse : List Nat) (place : Position)
  | forEach (target iter : String) (body orelse : List Nat) (place : Position)
  | whileTrue (condition : String) (body orelse : List Nat) (place : Position)
  | tryBlock (body handlers orelse final : List Nat) (place : Position)
  | functionDef (name : String) (place : Position)
  | classDef (name : String) (place : Position)
  deriving DecidableEq, Repr

namespace Tree

/-- The lines of the statements of a body, without what is nested in them. -/
def topLines (body : List Tree) : List Nat := body.filterMap line?

def place (t : Tree) : Position := ⟨t.line, t.column⟩

def instructions (t : Tree) : List Instruction :=
  match t.kind with
  | "Call" => [.call (t.part "func").brief ((t.partItems "args").map brief) t.place]
  | "Assign" => [.assign (Text.join ", " ((t.partItems "targets").map brief)) (t.part "value").brief t.place]
  | "Import" =>
    (t.partItems "names").map fun a => .importing (a.partText "name") none a.aliasText t.place
  | "ImportFrom" =>
    (t.partItems "names").map fun a =>
      .importing (t.partText "module") (some (a.partText "name")) a.aliasText t.place
  | "If" => [.ifThen (t.part "test").brief (topLines (t.partItems "body")) (topLines (t.partItems "orelse")) t.place]
  | "For" =>
    [.forEach (t.part "target").brief (t.part "iter").brief (topLines (t.partItems "body"))
      (topLines (t.partItems "orelse")) t.place]
  | "While" =>
    [.whileTrue (t.part "test").brief (topLines (t.partItems "body")) (topLines (t.partItems "orelse")) t.place]
  | "Try" =>
    [.tryBlock (topLines (t.partItems "body"))
      ((t.partItems "handlers").flatMap fun h => topLines (h.partItems "body"))
      (topLines (t.partItems "orelse")) (topLines (t.partItems "finalbody")) t.place]
  | "FunctionDef" => [.functionDef (t.partText "name") t.place]
  | "ClassDef" => [.classDef (t.partText "name") t.place]
  | _ => []

def listing (t : Tree) : List Instruction := t.preorder.flatMap instructions

end Tree

def lineList (lines : List Nat) : Value := .list (lines.map fun (n : Nat) => .int n)

def Instruction.toValue : Instruction → Value
  | .call func args place =>
    .dict [("type", .str "CALL"), ("func", .str func), ("args", .list (args.map .str)), ("line", .int place.line),
      ("col_offset", .int place.column)]
  | .assign target value place =>
    .dict [("type", .str "ASSIGN"), ("target", .str target), ("value", .str value), ("line", .int place.line),
      ("col_offset", .int place.column)]
  | .importing module name boundName place =>
    .dict ([("type", .str "IMPORT"), ("module", .str module)] ++
      (match name with
        | some n => [("name", .str n)]
        | none => []) ++
      [("alias", .str boundName), ("line", .int place.line), ("col_offset", .int place.column)])
  | .ifThen condition body orelse place =>
    .dict [("type", .str "IF"), ("condition", .str condition), ("line", .int place.line),
      ("body_lines", lineList body), ("else_lines", lineList orelse), ("col_offset", .int place.column)]
  | .forEach target iter body orelse place =>
    .dict [("type", .str "FOR"), ("target", .str target), ("iter", .str iter), ("line", .int place.line),
      ("body_lines", lineList body), ("else_lines", lineList orelse), ("col_offset", .int place.column)]
  | .whileTrue condition body orelse place =>
    .dict [("type", .str "WHILE"), ("condition", .str condition), ("line", .int place.line),
      ("body_lines", lineList body), ("else_lines", lineList orelse), ("col_offset", .int place.column)]
  | .tryBlock body handlers orelse final place =>
    .dict [("type", .str "TRY"), ("line", .int place.line), ("body_lines", lineList body),
      ("except_lines", lineList handlers), ("else_lines", lineList orelse), ("finally_lines", lineList final),
      ("col_offset", .int place.column)]
  | .functionDef name place =>
    .dict [("type", .str "FUNCTION_DEF"), ("name", .str name), ("line", .int place.line),
      ("col_offset", .int place.column)]
  | .classDef name place =>
    .dict [("type", .str "CLASS_DEF"), ("name", .str name), ("line", .int place.line), ("col_offset", .int place.column)]

end ThreatScan
