import ThreatScan.Syntax.Tree
/-!
The symbol table of a module: its functions, variables, imports and classes, each in the order in which the nodes of the
tree are met.

A class enters the functions of its body once as its methods; they are met again as functions of their own.
-/
namespace ThreatScan

/-- A function; with an owner it is listed as a method of that class. -/
structure FunctionSymbol where
  name : String
  line : Nat
  owner : Option String
  deriving DecidableEq, Repr

/-- An assigned name, or an assigned attribute of a name. -/
structure VariableSymbol where
  name : String
  line : Nat
  isAttribute : Bool
  deriving DecidableEq, Repr

/-- An imported module, or a name imported from a module. -/
structure ImportSymbol where
  module : String
  name : Option String
  boundName : String
  line : Nat
  deriving DecidableEq, Repr

structure ClassSymbol where
  name : String
  line : Nat
  deriving DecidableEq, Repr

structure Symbols where
  functions : List FunctionSymbol
  declared : List VariableSymbol
  imports : List ImportSymbol
  classes : List ClassSymbol
  deriving DecidableEq, Repr

namespace Tree

def isFunction (t : Tree) : Bool := t.isOneOf ["FunctionDef", "AsyncFunctionDef"]

def functionSymbols (t : Tree) : List FunctionSymbol :=
  if t.isFunction then [⟨t.partText "name", t.line, none⟩]
  else if t.is "ClassDef" then
    ((t.partItems "body").filter isFunction).map fun f => ⟨f.partText "name", f.line, some (t.partText "name")⟩
  else []

def classSymbols (t : Tree) : List ClassSymbol :=
  if t.is "ClassDef" then [⟨t.partText "name", t.line⟩] else []

/-- The alias of an imported name, which is the name itself unless another is given. -/
def aliasText (t : Tree) : String :=
  if (t.partText "asname").isEmpty then t.partText "name" else t.partText "asname"

def importSymbols (t : Tree) : List ImportSymbol :=
  if t.is "Import" then
    (t.partItems "names").map fun a => ⟨a.partText "name", none, a.aliasText, t.line⟩
  else if t.is "ImportFrom" then
    (t.partItems "names").map fun a => ⟨t.partText "module", some (a.partText "name"), a.aliasText, t.line⟩
  else []

def targetSymbols (line : Nat) (target : Tree) : List VariableSymbol :=
  match target.asName?, target.asDotted? with
  | some n, _ => [⟨n, line, false⟩]
  | none, some (n, a) => [⟨n ++ "." ++ a, line, true⟩]
  | none, none => []

def variableSymbols (t : Tree) : List VariableSymbol :=
  if t.is "Assign" then (t.partItems "targets").flatMap (targetSymbols t.line)
  else if t.is "AnnAssign" then
    match (t.part "target").asName? with
    | some n => [⟨n, t.line, false⟩]
    | none => []
  else []

def symbols (t : Tree) : Symbols where
  functions := t.preorder.flatMap functionSymbols
  declared := t.preorder.flatMap variableSymbols
  imports := t.preorder.flatMap importSymbols
  classes := t.preorder.flatMap classSymbols

end Tree

def Symbols.empty : Symbols := ⟨[], [], [], []⟩

def FunctionSymbol.toValue (f : FunctionSymbol) : Value :=
  .dict ([("name", .str f.name), ("line", .int f.line), ("is_method", .bool f.owner.isSome)] ++
    match f.owner with
    | some c => [("class_name", .str c)]
    | none => [])

def VariableSymbol.toValue (v : VariableSymbol) : Value :=
  .dict [("name", .str v.name), ("line", .int v.line),
    ("type", .str (if v.isAttribute then "attribute" else "variable"))]

def ImportSymbol.toValue (i : ImportSymbol) : Value :=
  match i.name with
  | none =>
    .dict [("module", .str i.module), ("alias", .str i.boundName), ("line", .int i.line), ("type", .str "import")]
  | some n =>
    .dict [("module", .str i.module), ("name", .str n), ("alias", .str i.boundName), ("line", .int i.line),
      ("type", .str "from_import")]

def ClassSymbol.toValue (c : ClassSymbol) : Value :=
  .dict [("name", .str c.name), ("line", .int c.line)]

def Symbols.toValue (s : Symbols) : Value :=
  .dict [("functions", .list (s.functions.map (·.toValue))), ("variables", .list (s.declared.map (·.toValue))),
    ("imports", .list (s.imports.map (·.toValue))), ("classes", .list (s.classes.map (·.toValue)))]

end ThreatScan
