import ThreatScan.Text.Quoted
import ThreatScan.Value.Basic
/-!
The text of a value as it appears in log lines and messages, and the wording of faults.
-/
namespace ThreatScan.Value

def displayInt (n : Int) : String := if n < 0 then "-" ++ toString n.natAbs else toString n.natAbs

mutual

/-- A value as it stands inside another value: texts are quoted. -/
def inner : Value → String
  | .null => "None"
  | .bool b => if b then "True" else "False"
  | .int n => displayInt n
  | .float x => x.text
  | .str s => Text.quote s
  | .list xs => "[" ++ Text.join ", " (innerItems xs) ++ "]"
  | .tuple xs =>
    match xs with
    | [x] => "(" ++ inner x ++ ",)"
    | xs => "(" ++ Text.join ", " (innerItems xs) ++ ")"
  | .dict fields => "\x7b" ++ Text.join ", " (innerFields fields) ++ "\x7d"

def innerItems : List Value → List String
  | [] => []
  | x :: xs => inner x :: innerItems xs

def innerFields : List (String × Value) → List String
  | [] => []
  | (k, v) :: rest => (Text.quote k ++ ": " ++ inner v) :: innerFields rest

end

/-- A value on its own: a text stands for itself. -/
def display : Value → String
  | .str s => s
  | v => v.inner

end ThreatScan.Value

namespace ThreatScan.Fault

def message : Fault → String
  | .noMember kind member => "'" ++ kind ++ "' object has no attribute '" ++ member ++ "'"
  | .notIterable kind => "'" ++ kind.name ++ "' object is not iterable"
  | .notSearchable kind => "argument of type '" ++ kind.name ++ "' is not iterable"
  | .searchNeedsText kind => "'in <string>' requires string as left operand, not " ++ kind.name
  | .noLength kind => "object of type '" ++ kind.name ++ "' has no len()"
  | .notOrdered symbol left right =>
    "'" ++ symbol ++ "' not supported between instances of '" ++ left.name ++ "' and '" ++ right.name ++ "'"
  | .notCombinable symbol left right =>
    "unsupported operand type(s) for " ++ symbol ++ ": '" ++ left.name ++ "' and '" ++ right.name ++ "'"
  | .notIndexable kind => "'" ++ kind.name ++ "' object is not subscriptable"
  | .badIndex container index => container.name ++ " indices must be integers or slices, not " ++ index.name
  | .notHashable kind => "unhashable type: '" ++ kind.name ++ "'"
  | .missingKey key => key.inner
  | .notText kind => "expected string or bytes-like object, got '" ++ kind.name ++ "'"
  | .notCallable kind => "'" ++ kind.name ++ "' object is not callable"
  | .joinNeedsText index kind =>
    "sequence item " ++ toString index ++ ": expected str instance, " ++ kind.name ++ " found"
  | .noNumber text => "invalid literal for int() with base 10: " ++ Text.quote text
  | .tooManyDigits count =>
    "Exceeds the limit (4300 digits) for integer string conversion: value has " ++ toString count ++
      " digits; use sys.set_int_max_str_digits() to increase the limit"
  | .numberNeedsText kind =>
    "int() argument must be a string, a bytes-like object or a real number, not '" ++ kind.name ++ "'"
  | .infinite => "cannot convert float infinity to integer"
  | .tooLarge => "int too large to convert to float"
  | .badFormat code kind => "Unknown format code '" ++ code ++ "' for object of type '" ++ kind.name ++ "'"
  | .noPath kind => "expected str, bytes or os.PathLike object, not " ++ kind.name
  | .misuse text => text

end ThreatScan.Fault
