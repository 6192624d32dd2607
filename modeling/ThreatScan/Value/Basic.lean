import ThreatScan.Decimal.Shortest
import ThreatScan.Text.Blank
/-!
Free-form values: what rule files, settings and analysis results are made of.

Findings travel between the stages of an analysis as records whose fields are looked up by name, and a record may lack
a field or hold a value of an unexpected kind there. A use of a value that its kind does not support is a `Fault`, which
says what was asked of which kind.
-/
namespace ThreatScan

/-- A value of a rule file, a settings file, a finding or a report. The fields of a record keep the order in which
they were written. -/
inductive Value where
  | null
  | bool (b : Bool)
  | int (n : Int)
  | float (x : Binary64)
  | str (s : String)
  | list (items : List Value)
  | tuple (items : List Value)
  | dict (fields : List (String × Value))
  deriving Repr, BEq, Inhabited

namespace Value

inductive Kind where
  | null | bool | int | float | str | list | tuple | dict
  deriving DecidableEq, Repr

def Kind.name : Kind → String
  | .null => "NoneType"
  | .bool => "bool"
  | .int => "int"
  | .float => "float"
  | .str => "str"
  | .list => "list"
  | .tuple => "tuple"
  | .dict => "dict"

def kind : Value → Kind
  | .null => .null
  | .bool _ => .bool
  | .int _ => .int
  | .float _ => .float
  | .str _ => .str
  | .list _ => .list
  | .tuple _ => .tuple
  | .dict _ => .dict

end Value

/-- A use of a value that its kind does not support. -/
inductive Fault where
  | noMember (kind : String) (member : String)
  | notIterable (kind : Value.Kind)
  | notSearchable (kind : Value.Kind)
  /-- Only a text can be searched for in a text. -/
  | searchNeedsText (kind : Value.Kind)
  | noLength (kind : Value.Kind)
  | notOrdered (symbol : String) (left right : Value.Kind)
  | notCombinable (symbol : String) (left right : Value.Kind)
  | notIndexable (kind : Value.Kind)
  /-- A list is indexed by numbers only. -/
  | badIndex (container index : Value.Kind)
  | notHashable (kind : Value.Kind)
  | missingKey (key : Value)
  /-- A pattern can be matched against a text only. -/
  | notText (kind : Value.Kind)
  | notCallable (kind : Value.Kind)
  /-- Joining a list needs texts only. -/
  | joinNeedsText (index : Nat) (kind : Value.Kind)
  /-- A text that is no number was to be read as one. -/
  | noNumber (text : String)
  | tooManyDigits (count : Nat)
  /-- A value of this kind cannot be read as a number. -/
  | numberNeedsText (kind : Value.Kind)
  | infinite
  /-- An integer beyond the range of floating point numbers. -/
  | tooLarge
  /-- A format that values of this kind do not take. -/
  | badFormat (code : String) (kind : Value.Kind)
  | noPath (kind : Value.Kind)
  /-- Any other misuse, with its own wording. -/
  | misuse (text : String)
  deriving Repr

namespace Value

def fieldOf? (key : String) : List (String × Value) → Option Value
  | [] => none
  | (k, v) :: rest => if k = key then some v else fieldOf? key rest

/-- The fields with one of them set: in its place if it is there, else at the end. -/
def setField (key : String) (v : Value) : List (String × Value) → List (String × Value)
  | [] => [(key, v)]
  | (k, w) :: rest => if k = key then (k, v) :: rest else (k, w) :: setField key v rest

/-- The field of a record, or the default if the record lacks it. -/
def get (v : Value) (key : String) (default : Value) : Except Fault Value :=
  match v with
  | .dict fields => .ok ((fieldOf? key fields).getD default)
  | v => .error (.noMember v.kind.name "get")

def require (v : Value) (key : String) : Except Fault Value :=
  match v with
  | .dict fields =>
    match fieldOf? key fields with
    | some w => .ok w
    | none => .error (.missingKey (.str key))
  | .str _ => .error (.misuse "string indices must be integers, not 'str'")
  | .list _ => .error (.badIndex .list .str)
  | .tuple _ => .error (.badIndex .tuple .str)
  | v => .error (.notIndexable v.kind)

def field? (v : Value) (key : String) : Option Value :=
  match v with
  | .dict fields => fieldOf? key fields
  | _ => none

/-- The items of a value: of a list its elements, of a record its keys, of a text its characters. -/
def items : Value → Except Fault (List Value)
  | .list xs => .ok xs
  | .tuple xs => .ok xs
  | .dict fields => .ok (fields.map fun f => .str f.1)
  | .str s => .ok (s.toList.map fun c => .str (String.singleton c))
  | v => .error (.notIterable v.kind)

def length : Value → Except Fault Nat
  | .list xs => .ok xs.length
  | .tuple xs => .ok xs.length
  | .dict fields => .ok fields.length
  | .str s => .ok s.toList.length
  | v => .error (.noLength v.kind)

/-- Empty values, zero, false and null count as no. -/
def truthy : Value → Bool
  | .null => false
  | .bool b => b
  | .int n => n != 0
  | .float x => !x.isZero
  | .str s => !s.isEmpty
  | .list xs => !xs.isEmpty
  | .tuple xs => !xs.isEmpty
  | .dict fields => !fields.isEmpty

/-- The text of a value that must be one, for the use of the named member of texts. -/
def text (member : String) : Value → Except Fault String
  | .str s => .ok s
  | v => .error (.noMember v.kind.name member)

def text? : Value → Option String
  | .str s => some s
  | _ => none

def int? : Value → Option Int
  | .int n => some n
  | .bool b => some (if b then 1 else 0)
  | _ => none

/-- Truth values, integers and floating point numbers can be compared with one another. -/
def isNumber : Value → Bool
  | .bool _ => true
  | .int _ => true
  | .float _ => true
  | _ => false

/-- Order of two numbers; none unless both values are numbers. -/
def compareNumbers? (a b : Value) : Option Ordering :=
  match a.int?, a, b.int?, b with
  | some m, _, some n, _ => some (compare m n)
  | some m, _, none, .float y => (y.compareInt? m).map Ordering.swap
  | none, .float x, some n, _ => x.compareInt? n
  | none, .float x, none, .float y => x.compare? y
  | _, _, _, _ => none

/-- The first of two numbers is the lesser one. Where it is not a number at all it is neither lesser nor greater. -/
def lessThan (symbol : String) (a b : Value) : Except Fault Bool :=
  if a.isNumber && b.isNumber then .ok (compareNumbers? a b == some .lt)
  else .error (.notOrdered symbol a.kind b.kind)

mutual

/-- Equality of values: numbers by value, whatever their kind, and records whatever the order of their fields. -/
def same : Value → Value → Bool
  | .null, .null => true
  | .str s, .str t => s == t
  | .list xs, .list ys => sameItems xs ys
  | .tuple xs, .tuple ys => sameItems xs ys
  | .dict fs, .dict gs => fs.length == gs.length && sameFields fs gs
  | a, b => compareNumbers? a b == some .eq

def sameItems : List Value → List Value → Bool
  | [], [] => true
  | x :: xs, y :: ys => same x y && sameItems xs ys
  | _, _ => false

def sameFields : List (String × Value) → List (String × Value) → Bool
  | [], _ => true
  | (k, v) :: rest, gs =>
    (match fieldOf? k gs with
      | some w => same v w
      | none => false) && sameFields rest gs

end

/-- The value holds the text: as a part of a text, an item of a list or a key of a record. -/
def holds (needle : String) : Value → Except Fault Bool
  | .str s => .ok (Text.contains s needle)
  | .list xs => .ok (xs.any (same (.str needle)))
  | .tuple xs => .ok (xs.any (same (.str needle)))
  | .dict fields => .ok (fields.any fun f => f.1 == needle)
  | v => .error (.notSearchable v.kind)

mutual

/-- A value that can be a key: no list and no record, also not inside a tuple. -/
def hashable : Value → Except Fault Unit
  | .list _ => .error (.notHashable .list)
  | .dict _ => .error (.notHashable .dict)
  | .tuple xs => hashableItems xs
  | _ => .ok ()

def hashableItems : List Value → Except Fault Unit
  | [] => .ok ()
  | x :: xs => do hashable x; hashableItems xs

end

/-- The value holds another: as a part of a text, an item of a list or a key of a record. -/
def contains (v needle : Value) : Except Fault Bool :=
  match v, needle with
  | .str s, .str t => .ok (Text.contains s t)
  | .str _, n => .error (.searchNeedsText n.kind)
  | .list xs, n => .ok (xs.any (same n))
  | .tuple xs, n => .ok (xs.any (same n))
  | .dict fields, n => do
    n.hashable
    return fields.any fun f => same n (.str f.1)
  | v, _ => .error (.notSearchable v.kind)

@[simp] theorem fieldOf?_setField_self (key : String) (v : Value) (fields : List (String × Value)) :
    fieldOf? key (setField key v fields) = some v := by
  induction fields with
  | nil => simp [setField, fieldOf?]
  | cons f rest ih =>
    obtain ⟨k, w⟩ := f
    by_cases h : k = key <;> simp [setField, fieldOf?, h, ih]

theorem fieldOf?_setField_ne {key other : String} (v : Value) (fields : List (String × Value)) (h : other ≠ key) :
    fieldOf? other (setField key v fields) = fieldOf? other fields := by
  induction fields with
  | nil => simp [setField, fieldOf?, Ne.symm h]
  | cons f rest ih =>
    obtain ⟨k, w⟩ := f
    by_cases hk : k = key
    · subst hk; simp [setField, fieldOf?, Ne.symm h]
    · by_cases ho : k = other
      · subst ho; simp [setField, fieldOf?, hk]
      · simp [setField, fieldOf?, hk, ho, ih]

end Value
end ThreatScan
