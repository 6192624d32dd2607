import ThreatScan.Syntax.Tree
/-!
From source text to a tree.

The grammar of the language is supplied by a parser, which answers for a text with its tree or with what is wrong with it.
A text can have a tree and still not compile. This module says which failure a caller sees, and what a syntax check
reports.
-/
namespace ThreatScan

/-- What a parser or compiler says about a text that it refuses. -/
structure Diagnostic where
  kind : String
  message : String
  line : Option Int
  offset : Option Int
  text : Option String
  deriving DecidableEq, Repr

/-- The refusal is about the syntax, not about the limits of the parser. -/
def Diagnostic.isSyntax (d : Diagnostic) : Bool := ["SyntaxError", "IndentationError", "TabError"].contains d.kind

structure Parse where
  tree : Option Tree
  parseError : Option Diagnostic
  compileError : Option Diagnostic

abbrev Parser := String → Parse

inductive TreeError where
  | noSource
  | notText (kind : Value.Kind)
  | emptySource
  | invalid (filename : String) (d : Diagnostic)
  | unexpected (message : String)
  deriving DecidableEq, Repr

def lineText : Option Int → String
  | some n => Value.displayInt n
  | none => "None"

namespace TreeError

/-- The offending text with a mark under the place, if both are known. -/
def excerpt (d : Diagnostic) : String :=
  match d.text with
  | none => ""
  | some t =>
    if t.isEmpty then ""
    else
      "\n" ++ t ++
        match d.offset with
        | none => ""
        | some o => if o = 0 then "" else String.ofList (List.replicate (o - 1).toNat ' ') ++ "^"

def message : TreeError → String
  | .noSource => "Source code cannot be None"
  | .notText kind => "Source code must be a string, got <class '" ++ kind.name ++ "'>"
  | .emptySource => "Source code cannot be empty"
  | .invalid filename d =>
    "Syntax error in " ++ filename ++ " at line " ++ lineText d.line ++ ": " ++ d.message ++ excerpt d
  | .unexpected text => "Unexpected error parsing source code: " ++ text

end TreeError

def Tree.ofSource (parser : Parser) (filename source : String) : Except TreeError Tree :=
  if Text.allBlank source then .error .emptySource
  else
    let answer := parser source
    match answer.parseError, answer.tree with
    | some d, _ => .error (if d.isSyntax then .invalid filename d else .unexpected d.message)
    | none, some t => .ok t
    | none, none => .error (.unexpected "")

/-- The tree of a value that should be a text. -/
def Tree.build (parser : Parser) (filename : String) : Value → Except TreeError Tree
  | .null => .error .noSource
  | .str s => Tree.ofSource parser filename s
  | v => .error (.notText v.kind)

structure SyntaxIssue where
  kind : String
  message : String
  line : Int
  offset : Int
  text : Option String
  deriving DecidableEq, Repr

structure SyntaxReport where
  valid : Bool
  issues : List SyntaxIssue
  message : String
  deriving DecidableEq, Repr

namespace SyntaxReport

def empty : SyntaxReport :=
  ⟨false, [⟨"EmptySource", "Source code is empty", 0, 0, none⟩], "Source code is empty"⟩

def ofDiagnostic (d : Diagnostic) : SyntaxReport :=
  if d.isSyntax then
    ⟨false, [⟨"SyntaxError", d.message, d.line.getD 0, d.offset.getD 0, some (d.text.getD "")⟩],
      "Syntax error at line " ++ lineText d.line ++ ": " ++ d.message⟩
  else ⟨false, [⟨d.kind, d.message, 0, 0, some ""⟩], "Unexpected error: " ++ d.message⟩

def check (parser : Parser) (source : String) : SyntaxReport :=
  if Text.allBlank source then empty
  else
    match (parser source).compileError with
    | none => ⟨true, [], ""⟩
    | some d => ofDiagnostic d

end SyntaxReport

def SyntaxIssue.toValue (i : SyntaxIssue) : Value :=
  .dict ([("type", .str i.kind), ("message", .str i.message), ("line", .int i.line), ("offset", .int i.offset)] ++
    match i.text with
    | some t => [("text", .str t)]
    | none => [])

def SyntaxReport.toValue (r : SyntaxReport) : Value :=
  .dict [("valid", .bool r.valid), ("errors", .list (r.issues.map (·.toValue))), ("error_message", .str r.message)]

def Diagnostic.ofValue? (v : Value) : Option Diagnostic :=
  match v.field? "kind", v.field? "message" with
  | some (.str kind), some (.str message) =>
    some ⟨kind, message, (v.field? "line").bind (·.int?), (v.field? "offset").bind (·.int?),
      (v.field? "text").bind (·.text?)⟩
  | _, _ => none

def Parse.ofValue (v : Value) : Parse where
  tree := match v.field? "ast" with
    | some (.dict fields) => some (Tree.ofValue (.dict fields))
    | _ => none
  parseError := (v.field? "parse_error").bind Diagnostic.ofValue?
  compileError := (v.field? "compile_error").bind Diagnostic.ofValue?

end ThreatScan
