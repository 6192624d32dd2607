import ThreatScan.Text.Half
import ThreatScan.Value.Display
/-!
Values as JSON documents: an indented form for reports and a compact form.
-/
namespace ThreatScan.Value

/-- One character of a JSON text; characters beyond ASCII stand for themselves, but half of a pair is named. -/
def jsonChar (c : Char) : List Char :=
  if c = '"' then ['\\', '"']
  else if c = '\\' then ['\\', '\\']
  else if c = '\n' then ['\\', 'n']
  else if c = '\r' then ['\\', 'r']
  else if c = '\t' then ['\\', 't']
  else if c.toNat = 0x08 then ['\\', 'b']
  else if c.toNat = 0x0C then ['\\', 'f']
  else if c.toNat < 0x20 then '\\' :: 'u' :: Text.hexDigits 4 c.toNat
  else
    match Text.halfOf? c with
    | some n => '\\' :: 'u' :: Text.hexDigits 4 n
    | none => [c]

def jsonText (s : String) : String := String.ofList ('"' :: (s.toList.flatMap jsonChar ++ ['"']))

def jsonFloat : Binary64 → String
  | .infinite neg => if neg then "-Infinity" else "Infinity"
  | .nan => "NaN"
  | x => x.text

/-- A line break and the indentation of a depth, two blanks a level. -/
def lineAt (depth : Nat) : String := "\n" ++ String.ofList (List.replicate (2 * depth) ' ')

mutual

/-- The indented document of a value that starts at the given depth. -/
def indentedAt (depth : Nat) : Value → String
  | .null => "null"
  | .bool b => if b then "true" else "false"
  | .int n => displayInt n
  | .float x => jsonFloat x
  | .str s => jsonText s
  | .list xs => indentedList depth xs
  | .tuple xs => indentedList depth xs
  | .dict [] => "\x7b\x7d"
  | .dict (f :: fields) =>
    "\x7b" ++ lineAt (depth + 1) ++ indentedFields (depth + 1) (f :: fields) ++ lineAt depth ++ "\x7d"

def indentedList (depth : Nat) : List Value → String
  | [] => "[]"
  | x :: xs => "[" ++ lineAt (depth + 1) ++ indentedItems (depth + 1) (x :: xs) ++ lineAt depth ++ "]"

def indentedItems (depth : Nat) : List Value → String
  | [] => ""
  | [x] => indentedAt depth x
  | x :: xs => indentedAt depth x ++ "," ++ lineAt depth ++ indentedItems depth xs

def indentedFields (depth : Nat) : List (String × Value) → String
  | [] => ""
  | [(k, v)] => jsonText k ++ ": " ++ indentedAt depth v
  | (k, v) :: rest => jsonText k ++ ": " ++ indentedAt depth v ++ "," ++ lineAt depth ++ indentedFields depth rest

end

def indented (v : Value) : String := indentedAt 0 v

mutual

/-- The document of a value on one line, without blanks. -/
def compact : Value → String
  | .null => "null"
  | .bool b => if b then "true" else "false"
  | .int n => displayInt n
  | .float x => jsonFloat x
  | .str s => jsonText s
  | .list xs => "[" ++ Text.join "," (compactItems xs) ++ "]"
  | .tuple xs => "[" ++ Text.join "," (compactItems xs) ++ "]"
  | .dict fields => "\x7b" ++ Text.join "," (compactFields fields) ++ "\x7d"

def compactItems : List Value → List String
  | [] => []
  | x :: xs => compact x :: compactItems xs

def compactFields : List (String × Value) → List String
  | [] => []
  | (k, v) :: rest => (jsonText k ++ ":" ++ compact v) :: compactFields rest

end

end ThreatScan.Value
