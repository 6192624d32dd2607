import ThreatScan.Value.Display
/-!
Syntax trees of Python modules.

A tree is a node with a kind, a position in the source and named parts; a part is again a tree, a list of trees, an
identifier, a number, a constant or absent. The parts of a node stand in the order of the grammar, which is the order in
which an analysis meets them: `preorder` lists every node of a tree, a node before the nodes inside it.
-/
namespace ThreatScan

/-- A place in a source text; lines count from one and columns from zero. -/
structure Position where
  line : Nat
  column : Nat
  deriving DecidableEq, Repr

/-- A syntax tree or one of its parts. -/
inductive Tree where
  | node (kind : String) (position : Option Position) (parts : List (String × Tree))
  | list (items : List Tree)
  | name (text : String)
  | number (n : Int)
  /-- A constant, by its text in the source language. -/
  | constant (text : String)
  | absent
  deriving Repr, BEq, Inhabited

namespace Tree

def partOf (key : String) : List (String × Tree) → Tree
  | [] => .absent
  | (k, t) :: rest => if k = key then t else partOf key rest

/-- The part of a node; absent if the tree is no node or has no such part. -/
def part (t : Tree) (key : String) : Tree :=
  match t with
  | .node _ _ parts => partOf key parts
  | _ => .absent

/-- The kind of a node; empty for other parts. -/
def kind : Tree → String
  | .node k _ _ => k
  | _ => ""

def is (t : Tree) (k : String) : Bool := t.kind == k

def isOneOf (t : Tree) (ks : List String) : Bool := ks.contains t.kind

def position? : Tree → Option Position
  | .node _ p _ => p
  | _ => none

def line? (t : Tree) : Option Nat := t.position?.map (·.line)

def line (t : Tree) : Nat := t.line?.getD 0

def column (t : Tree) : Nat := (t.position?.map (·.column)).getD 0

def items : Tree → List Tree
  | .list ts => ts
  | _ => []

def partItems (t : Tree) (key : String) : List Tree := (t.part key).items

def text : Tree → String
  | .name s => s
  | _ => ""

def partText (t : Tree) (key : String) : String := (t.part key).text

mutual

/-- Every node of a tree, a node before the nodes inside it. -/
def preorder : Tree → List Tree
  | .node k p parts => .node k p parts :: preorderParts parts
  | .list ts => preorderItems ts
  | _ => []

def preorderItems : List Tree → List Tree
  | [] => []
  | t :: ts => preorder t ++ preorderItems ts

def preorderParts : List (String × Tree) → List Tree
  | [] => []
  | (_, t) :: rest => preorder t ++ preorderParts rest

end

/-! Views: the shapes of nodes that analyses look for. -/

def asName? (t : Tree) : Option String := if t.is "Name" then some (t.partText "id") else none

def asAttribute? (t : Tree) : Option (Tree × String) :=
  if t.is "Attribute" then some (t.part "value", t.partText "attr") else none

/-- An attribute of a plain name: the name and the attribute. -/
def asDotted? (t : Tree) : Option (String × String) :=
  match t.asAttribute? with
  | some (value, attr) => value.asName?.map (·, attr)
  | none => none

/-- A plain name, or an attribute of one joined by a dot. -/
def variableName? (t : Tree) : Option String :=
  match t.asName? with
  | some n => some n
  | none => t.asDotted?.map fun (n, a) => n ++ "." ++ a

mutual

/-- Reads a tree from its record: a node has `node` and `fields`, a constant has `repr`. -/
def ofValue : Value → Tree
  | .null => .absent
  | .str s => .name s
  | .int n => .number n
  | .bool b => .number (if b then 1 else 0)
  | .list vs => .list (ofValues vs)
  | .dict fields =>
    match Value.fieldOf? "node" fields, Value.fieldOf? "repr" fields with
    | some (.str k), _ =>
      let position := match Value.fieldOf? "line" fields, Value.fieldOf? "col" fields with
        | some (.int l), some (.int c) => some ⟨l.toNat, c.toNat⟩
        | some (.int l), _ => some ⟨l.toNat, 0⟩
        | _, _ => none
      .node k position (ofFields fields)
    | _, some (.str r) => .constant r
    | _, _ => .absent
  | _ => .absent

def ofValues : List Value → List Tree
  | [] => []
  | v :: vs => ofValue v :: ofValues vs

def ofFields : List (String × Value) → List (String × Tree)
  | [] => []
  | (k, v) :: rest => if k = "fields" then ofParts v else ofFields rest

def ofParts : Value → List (String × Tree)
  | .list vs => ofPairs vs
  | _ => []

/-- Parts written as pairs of a name and a value. -/
def ofPairs : List Value → List (String × Tree)
  | [] => []
  | v :: vs => ofPair v ++ ofPairs vs

def ofPair : Value → List (String × Tree)
  | .list [.str k, v] => [(k, ofValue v)]
  | _ => []

end

theorem mem_preorder_self (k : String) (p : Option Position) (parts : List (String × Tree)) :
    Tree.node k p parts ∈ (Tree.node k p parts).preorder := by
  simp [preorder]

theorem preorderItems_append (ts us : List Tree) :
    preorderItems (ts ++ us) = preorderItems ts ++ preorderItems us := by
  induction ts with
  | nil => simp [preorderItems]
  | cons t rest ih => simp [preorderItems, ih, List.append_assoc]

end Tree
end ThreatScan
