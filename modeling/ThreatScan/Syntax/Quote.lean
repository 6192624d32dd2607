import ThreatScan.Disk.Basic
import ThreatScan.Syntax.Parse
/-!
The line that a refusal quotes, for a text that was read from a file.

A refusal of a text quotes the text. When the text comes from a file, a refusal by the grammar or by the compiler quotes the
line as it stands in the file, so that a last line without an end is quoted without one. Refusals by the reader of tokens
and those about an expression inside a formatted text still quote what they were given.
-/
namespace ThreatScan

/-- How the messages of the reader of tokens start. -/
def tokenMessages : List String :=
  ["unterminated string literal", "unterminated triple-quoted string literal", "invalid decimal literal",
   "invalid hexadecimal literal", "invalid octal literal", "invalid binary literal", "invalid imaginary literal",
   "leading zeros in", "invalid digit", "unmatched", "closing parenthesis", "too many nested parentheses",
   "invalid non-printable", "invalid character"]

/-- How the messages about a formatted text as a whole go on. -/
def formatMessages : List String :=
  ["expecting", "single", "empty expression", "unterminated string", "unmatched", "closing parenthesis", "too many nested",
   "expressions nested", "invalid conversion", "expression required"]

namespace Diagnostic

def quotesInput (d : Diagnostic) : Bool :=
  tokenMessages.any (Text.startsWith d.message) ||
    (Text.startsWith d.message "f-string: " && !formatMessages.any fun m => Text.startsWith d.message ("f-string: " ++ m))

end Diagnostic

namespace SourceLine

def uniform : List UInt8 → List UInt8
  | [] => []
  | 13 :: 10 :: rest => 10 :: uniform rest
  | b :: rest => (if b = 13 then 10 else b) :: uniform rest

/-- The lines with their ends; `line` holds the line being read, reversed. -/
def linesFrom (line : List UInt8) : List UInt8 → List (List UInt8)
  | [] => if line.isEmpty then [] else [line.reverse]
  | b :: rest => if b = 10 then (b :: line).reverse :: linesFrom [] rest else linesFrom (b :: line) rest

/-- The length of the pieces in which a long line is read; only the last piece is quoted. -/
def pieceLength : Nat := 999

/-- The piece of a line that is quoted; none of a line that ends with a full piece and no line end. -/
def lastPiece? (line : List UInt8) : Option (List UInt8) :=
  if line.length % pieceLength = 0 && line.getLast? != some 10 then none
  else some (line.drop ((line.length - 1) / pieceLength * pieceLength))

def bytesOf : Content → List UInt8
  | .text s => s.toUTF8.toList
  | .bytes bs => bs

def ofFile? (d : Disk) (path : String) (n : Int) : Option (List UInt8) :=
  if n ≤ 0 then none
  else
    match d.read path with
    | .ok c => ((linesFrom [] (uniform (bytesOf c)))[n.toNat - 1]?).bind lastPiece?
    | .error _ => none

def utf8 (s : List Char) : List UInt8 := (String.ofList s).toUTF8.toList

/-- The place of a mark carried from one quoted line to another: marks are counted in bytes of the line and shown in
characters. -/
def moveMark (old new : List Char) (offset : Int) : Int :=
  if offset ≤ 0 then offset
  else
    let before := offset.toNat - 1
    let place := (utf8 (old.take before)).length + (before - old.length) + 1
    ((Text.bytePieces 0 ((utf8 new ++ [0]).take place)).length : Nat)

/-- A refusal by the grammar, for a text read from a file. -/
def grammar (disk : Disk) (path : String) (d : Diagnostic) : Diagnostic :=
  if d.quotesInput then d
  else
    match d.line.bind (ofFile? disk path) with
    | none => d
    | some bs =>
      let line := Text.withMarks (Text.bytePieces 0 bs)
      { d with text := some (String.ofList line), offset := d.offset.map (moveMark (d.text.getD "").toList line) }

/-- A refusal by the compiler, for a text read from a file; a line that is no text is not quoted. -/
def compiler (disk : Disk) (path : String) (d : Diagnostic) : Diagnostic :=
  match d.line.bind (ofFile? disk path) with
  | none => d
  | some bs =>
    match Text.strictly (Text.bytePieces 0 bs) with
    | .ok line => { d with text := some (String.ofList line) }
    | .error _ => d

end SourceLine

/-- The refusal of a file name that holds a null character. -/
def Diagnostic.nullInName : Diagnostic := ⟨"ValueError", "embedded null character", none, none, none⟩

def Parser.forFile (parser : Parser) (disk : Disk) (path : String) : Parser := fun source =>
  if path.toList.contains (Char.ofNat 0) then ⟨none, some .nullInName, some .nullInName⟩
  else
    let answer := parser source
    let compileError := match answer.parseError with
      | some _ => answer.compileError.map (SourceLine.grammar disk path)
      | none => answer.compileError.map (SourceLine.compiler disk path)
    { answer with parseError := answer.parseError.map (SourceLine.grammar disk path), compileError }

end ThreatScan
