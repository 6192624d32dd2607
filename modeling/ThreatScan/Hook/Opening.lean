import ThreatScan.Disk.Basic
import ThreatScan.Value.Basic
/-!
Opening a file by a call.

The arguments are checked first, in the order of the parameters; then the mode on its own and together with the other
arguments; then the file is looked for. What can be seen of a file that was opened is only that it was.
-/
namespace ThreatScan.Hook

inductive OpenError where
  | needsText (parameter : String) (optional : Bool) (kind : Value.Kind)
  | needsInteger (kind : Value.Kind)
  | integerTooLarge
  | nullInText
  /-- The file is given neither by a path nor by a number. -/
  | noPath (kind : Value.Kind)
  | badMode (mode : String)
  | textAndBinary
  | severalAccesses
  | noAccess
  | binaryTakesNo (argument : String)
  | negativeNumber
  | unknownNumber
  /-- A file that is opened by its path is also closed. -/
  | mustClose
  | notCallable (kind : Value.Kind)
  | textNeedsBuffer
  | badLineEnd (text : String)
  | disk (e : DiskError)

namespace OpenError

def message : OpenError → String
  | .needsText parameter optional kind =>
    "open() argument '" ++ parameter ++ "' must be str" ++ (if optional then " or None" else "") ++ ", not " ++
      (if kind = .null then "None" else kind.name)
  | .needsInteger kind => "'" ++ kind.name ++ "' object cannot be interpreted as an integer"
  | .integerTooLarge => "Python int too large to convert to C int"
  | .nullInText => "embedded null character"
  | .noPath kind => "expected str, bytes or os.PathLike object, not " ++ kind.name
  | .badMode mode => "invalid mode: '" ++ mode ++ "'"
  | .textAndBinary => "can't have text and binary mode at once"
  | .severalAccesses => "must have exactly one of create/read/write/append mode"
  | .noAccess => "Must have exactly one of create/read/write/append mode and at most one plus"
  | .binaryTakesNo argument => "binary mode doesn't take " ++ argument ++ " argument"
  | .negativeNumber => "negative file descriptor"
  | .unknownNumber => "[Errno 9] Bad file descriptor"
  | .mustClose => "Cannot use closefd=False with file name"
  | .notCallable kind => "'" ++ kind.name ++ "' object is not callable"
  | .textNeedsBuffer => "can't have unbuffered text I/O"
  | .badLineEnd text => "illegal newline value: " ++ text
  | .disk e => e.message

end OpenError

inductive Access where
  | create | read | write | append
  deriving DecidableEq, Repr

/-- A mode as its letters say it. -/
structure OpenMode where
  accesses : List Access
  text : Bool
  binary : Bool

namespace OpenMode

def accessOf? : Char → Option Access
  | 'x' => some .create
  | 'r' => some .read
  | 'w' => some .write
  | 'a' => some .append
  | _ => none

/-- Reads a mode: letters of which none occurs twice. -/
def ofText? (mode : String) : Option OpenMode :=
  let letters := mode.toList
  if letters.Nodup ∧ letters.all (['x', 'r', 'w', 'a', '+', 't', 'b'].contains ·) then
    some ⟨letters.filterMap accessOf?, letters.contains 't', letters.contains 'b'⟩
  else none

end OpenMode

structure Opening where
  file : Value
  mode : String
  buffering : Int
  encoding : Option String
  errors : Option String
  newline : Option String
  close : Bool
  opener : Value

namespace Opening

def textArgument (parameter : String) (optional : Bool) : Value → Except OpenError String
  | .str s => if s.toList.contains (Char.ofNat 0) then .error .nullInText else .ok s
  | v => .error (.needsText parameter optional v.kind)

def optionalText (parameter : String) : Value → Except OpenError (Option String)
  | .null => .ok none
  | v => (textArgument parameter true v).map some

def largest : Int := 2147483647

def inRange (n : Int) : Bool := decide (-largest - 1 ≤ n ∧ n ≤ largest)

def integerArgument : Value → Except OpenError Int
  | .bool b => .ok (if b then 1 else 0)
  | .int n => if inRange n then .ok n else .error .integerTooLarge
  | v => .error (.needsInteger v.kind)

/-- Checks the arguments of a call; one that is not there is null. -/
def ofArguments (args : List Value) : Except OpenError Opening := do
  let arg (i : Nat) : Value := (args[i]?).getD .null
  let mode ← textArgument "mode" false (arg 1)
  let buffering ← integerArgument (arg 2)
  let encoding ← optionalText "encoding" (arg 3)
  let errors ← optionalText "errors" (arg 4)
  let newline ← optionalText "newline" (arg 5)
  let close ← integerArgument (arg 6)
  return ⟨arg 0, mode, buffering, encoding, errors, newline, close != 0, arg 7⟩

def checkFile (file : Value) : Except OpenError Unit :=
  match file with
  | .bool _ | .int _ | .float _ | .str _ => .ok ()
  | v => .error (.noPath v.kind)

def checkMode (o : Opening) : Except OpenError OpenMode := do
  let some mode := OpenMode.ofText? o.mode | throw (.badMode o.mode)
  if mode.text && mode.binary then throw .textAndBinary
  if 1 < mode.accesses.length then throw .severalAccesses
  if mode.binary && o.encoding.isSome then throw (.binaryTakesNo "an encoding")
  if mode.binary && o.errors.isSome then throw (.binaryTakesNo "an errors")
  if mode.binary && o.newline.isSome then throw (.binaryTakesNo "a newline")
  return mode

def target (o : Opening) : Except OpenError (Int ⊕ String) :=
  match o.file with
  | .bool b => .ok (.inl (if b then 1 else 0))
  | .int n =>
    if !inRange n then .error (.noPath .int) else if n < 0 then .error .negativeNumber else .ok (.inl n)
  | .str path => if path.toList.contains (Char.ofNat 0) then .error (.disk .nullInPath) else .ok (.inr path)
  | v => .error (.noPath v.kind)

def openPath (d : Disk) (path : String) : Access → Except DiskError Unit
  | .read => (d.read path).map fun _ => ()
  | .create =>
    if !Text.endsWith path "/" && d.has path then .error (.alreadyThere path)
    else (d.write path (.text "")).map fun _ => ()
  | _ => (d.write path (.text "")).map fun _ => ()

/-- Opens the file. Of the open files only the three standard ones have numbers. -/
def run (o : Opening) (d : Disk) : Except OpenError Unit := do
  checkFile o.file
  let mode ← o.checkMode
  let target ← o.target
  let some access := mode.accesses.head? | throw .noAccess
  match target with
  | .inl n => if 2 < n then throw .unknownNumber
  | .inr path =>
    if !o.close then throw .mustClose
    if o.opener.kind != .null then throw (.notCallable o.opener.kind)
    match openPath d path access with
    | .ok _ => pure ()
    | .error e => throw (.disk e)
  if o.buffering = 0 && !mode.binary then throw .textNeedsBuffer
  match o.newline with
  | some text => unless ["", "\n", "\r", "\r\n"].contains text do throw (.badLineEnd text)
  | none => pure ()

end Opening
end ThreatScan.Hook
