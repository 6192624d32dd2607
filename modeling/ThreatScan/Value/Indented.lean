import ThreatScan.Value.Reader
/-!
Values written as indented lines, the form of settings and rule files.

A record is a run of lines `name: value` of one indentation, a list a run of lines that start with a dash. A name without a
value on its line takes the deeper lines below it. Scalars are written bare or in quotes; blank lines and comments count
for nothing.
-/
namespace ThreatScan.Value

structure IndentedLine where
  indent : Nat
  text : List Char

def indentedLines (s : String) : List IndentedLine :=
  (Text.cutAt '\n' s.toList).filterMap fun line =>
    let text := Text.trimList line
    match text with
    | [] => none
    | '#' :: _ => none
    | _ => some ⟨(line.takeWhile (· == ' ')).length, text⟩

/-- A bare scalar up to a comment. -/
def withoutComment : List Char → List Char
  | [] => []
  | ' ' :: '#' :: _ => []
  | c :: rest => c :: withoutComment rest

def singleQuoted? : List Char → Option (List Char)
  | [] => none
  | '\'' :: '\'' :: rest => (singleQuoted? rest).map ('\'' :: ·)
  | '\'' :: _ => some []
  | c :: rest => (singleQuoted? rest).map (c :: ·)

/-- A scalar: in quotes a text; else a number, a truth value or null if it reads as one, and otherwise a text. -/
def scalar? (s : List Char) : Option Value :=
  match s with
  | '"' :: _ => read? (String.ofList s)
  | '\'' :: rest => (singleQuoted? rest).map fun t => .str (String.ofList t)
  | s =>
    let bare := String.ofList (Text.trimList (withoutComment s))
    if bare.isEmpty || bare == "~" then some .null
    else some ((read? bare).getD (.str bare))

/-- The name at the start of a line and what follows its colon. -/
def named? : List Char → Option (List Char × List Char)
  | [] => none
  | [':'] => some ([], [])
  | ':' :: ' ' :: rest => some ([], Text.trimList rest)
  | c :: rest => (named? rest).map fun r => (c :: r.1, r.2)

/-- A dash at the start of a line: what follows it, moved in by two columns. -/
def afterDash? (l : IndentedLine) : Option IndentedLine :=
  match l.text with
  | ['-'] => some ⟨l.indent + 2, []⟩
  | '-' :: ' ' :: rest => some ⟨l.indent + 2, Text.trimList rest⟩
  | _ => none

/-- What the readers below give: a result and the lines behind it. -/
abbrev LineReader (α : Type) := List IndentedLine → Option (α × List IndentedLine)

/-- The value of a name or a dash whose own line holds none: the deeper block below, or null. -/
def belowOf (block : LineReader Value) (indent : Nat) (lines : List IndentedLine) : Option (Value × List IndentedLine) :=
  match lines with
  | next :: _ => if indent < next.indent then block lines else some (.null, lines)
  | [] => some (.null, [])

def fieldsAt (block : LineReader Value) (indent : Nat) : Nat → LineReader (List (String × Value))
  | 0, _ => none
  | _ + 1, [] => some ([], [])
  | fuel + 1, line :: rest =>
    if line.indent != indent || (afterDash? line).isSome then some ([], line :: rest)
    else do
      let (name, value) ← named? line.text
      let (v, rest) ← if value.isEmpty then belowOf block indent rest else (scalar? value).map fun v => (v, rest)
      let (others, rest) ← fieldsAt block indent fuel rest
      return ((String.ofList name, v) :: others, rest)

def itemsAt (block : LineReader Value) (indent : Nat) : Nat → LineReader (List Value)
  | 0, _ => none
  | _ + 1, [] => some ([], [])
  | fuel + 1, line :: rest =>
    if line.indent != indent then some ([], line :: rest)
    else match afterDash? line with
      | none => some ([], line :: rest)
      | some inner => do
        let (v, rest) ←
          if inner.text.isEmpty then belowOf block indent rest
          else if (named? inner.text).isSome && inner.text.head? != some '"' then block (inner :: rest)
          else (scalar? inner.text).map fun v => (v, rest)
        let (others, rest) ← itemsAt block indent fuel rest
        return (v :: others, rest)

/-- A record or a list, of the indentation of its first line. -/
def blockOf : Nat → LineReader Value
  | 0, _ => none
  | _ + 1, [] => some (.null, [])
  | fuel + 1, line :: rest =>
    if (afterDash? line).isSome then
      (itemsAt (blockOf fuel) line.indent (rest.length + 2) (line :: rest)).map fun r => (.list r.1, r.2)
    else
      (fieldsAt (blockOf fuel) line.indent (rest.length + 2) (line :: rest)).map fun r => (.dict r.1, r.2)

def readIndented? (s : String) : Option Value :=
  let lines := indentedLines s
  match blockOf (lines.length + 1) lines with
  | some (v, []) => some v
  | _ => none

end ThreatScan.Value
