import ThreatScan.Host.Basic
import ThreatScan.Page.Upload
/-!
A visit of the page: the host behind it, what the page remembers between two visits, what the visitor chose, and what
the page did so far. It does two things: calls that put something on it, and boxes that it opens and closes (`Event`).

An action of the page may fail. What it did until then stays done, and a box that it opened is closed.
-/
namespace ThreatScan.Page

inductive Event where
  /-- A call, with its arguments by position and by name. -/
  | call (name : String) (args : List Value) (named : List (String × Value))
  /-- A box is opened: what follows goes into it. -/
  | enter (box : String)
  /-- The box opened last is closed. -/
  | leave (box : String)
  deriving Repr

namespace Event

def toValue : Event → Value
  | .call name args named => .list [.str name, .list args, .dict named]
  | .enter box => .list [.str "enter", .str box]
  | .leave box => .list [.str "exit", .str box]

end Event

/-- What the visitor chose: values of widgets by their keys or labels, and uploads. -/
structure Choices where
  language : Option Value
  mode : Option Value
  checks : List (String × Value)
  buttons : List (String × Value)
  file : Option Upload
  archive : Option Upload

def Choices.none : Choices := ⟨.none, .none, [], [], .none, .none⟩

structure Charts where
  /-- Why a pie cannot be drawn. -/
  pieProblem : Option String
  ring : Bool

abbrev Session := List (String × Value)

structure Visit where
  host : Host
  session : Session
  choices : Choices
  charts : Charts
  /-- Files that cannot be opened any more once they are written. -/
  locked : String → Option Denial
  events : List Event

end ThreatScan.Page

namespace ThreatScan

abbrev Page := ExceptT Failure (StateM Page.Visit)

namespace Page

def fail {α : Type} (e : Failure) : Page α := throw e

def valid {α : Type} (x : Except Fault α) : Page α :=
  match x with
  | .ok a => pure a
  | .error f => throw (.fault f)

def onHost {α : Type} (x : Act α) : Page α := ExceptT.mk fun v =>
  let (result, host) := x.run.run v.host
  (result, { v with host := host })

def attempt {α : Type} (x : Page α) : Page (Except Failure α) := ExceptT.lift x.run

/-! Events. -/

def record (e : Event) : Page Unit := modify fun v => { v with events := v.events ++ [e] }

def call (name : String) (args : List Value) (named : List (String × Value)) : Page Unit := record (.call name args named)

def say (name text : String) : Page Unit := call name [.str text] []

def markdown (text : String) : Page Unit := say "markdown" text

def html (text : String) : Page Unit := call "markdown" [.str text] [("unsafe_allow_html", .bool true)]

def write (text : String) : Page Unit := say "write" text

def metric (name label : String) (v : Value) : Page Unit := call name [.str label, v] []

def rule : Page Unit := markdown "---"

def columns (n : Nat) : Page Unit := call "columns" [.int n] []

def within {α : Type} (box : String) (x : Page α) : Page α := do
  record (.enter box)
  let result ← attempt x
  record (.leave box)
  ExceptT.mk (pure result)

def expander {α : Type} (title : String) (x : Page α) : Page α := do
  say "expander" title
  within "expander" x

def spinner {α : Type} (notice : String) (x : Page α) : Page α := do
  say "spinner" notice
  within "spinner" x

def table (rows : List Value) : Page Unit := call "dataframe" [.list rows] [("use_container_width", .bool true)]

/-! What the page remembers. -/

def remembered? (name : String) : Page (Option Value) := return Value.fieldOf? name (← get).session

def remembered (name : String) : Page Value := do
  match ← remembered? name with
  | some v => return v
  | none => fail (.fault (.noMember "SessionState" name))

def remember (name : String) (v : Value) : Page Unit :=
  modify fun s => { s with session := Value.setField name v s.session }

/-- Remembers a value unless something is remembered under the name. -/
def rememberFirst (name : String) (v : Value) : Page Unit := do
  if (← remembered? name).isNone then remember name v

/-! Widgets. -/

/-- A check box. Its value is found by its key if it has one, else by its label. -/
def checkbox (name label : String) (value : Value) (key : Option String) (named : List (String × Value)) : Page Value := do
  call name [.str label] ([("value", value)] ++ (key.map fun k => ("key", Value.str k)).toList ++ named)
  return (Value.fieldOf? (key.getD label) (← get).choices.checks).getD value

def button (name label : String) (key : Option String) (named : List (String × Value)) : Page Bool := do
  call name [.str label] ((key.map fun k => ("key", Value.str k)).toList ++ named)
  return ((Value.fieldOf? (key.getD label) (← get).choices.buttons).getD (.bool false)).truthy

/-! Files. -/

def lenientText (path : String) : Page String := do
  match (← get).host.disk.read path with
  | .ok c => return Disk.lenientTextOf c
  | .error e => fail (.disk e)

def path : Value → Except Fault String
  | .str s => .ok s
  | v => .error (.noPath v.kind)

/-- The path that is looked up for a value: none for one that is empty or a number; any other must be a text. -/
def path? : Value → Except Fault (Option String)
  | .str s => .ok (if s.isEmpty then none else some s)
  | .int _ => .ok none
  | .bool _ => .ok none
  | v => if v.truthy then .error (.noPath v.kind) else .ok none

end Page
end ThreatScan
