import ThreatScan.Text.Blank
/-!
Reading a text from its front: each step takes what it expects and leaves the rest.
-/
namespace ThreatScan.Text

/-- The rest after a fixed text. -/
def literal? (expected : String) (s : List Char) : Option (List Char) :=
  if expected.toList.isPrefixOf s then some (s.drop expected.toList.length) else none

/-- The rest after at least one blank. -/
def gap? : List Char → Option (List Char)
  | [] => none
  | c :: rest => if isBlank c then some (rest.dropWhile isBlank) else none

/-- The characters up to the first that is not accepted, at least one, and the rest. -/
def run? (accept : Char → Bool) (s : List Char) : Option (List Char × List Char) :=
  let run := s.takeWhile accept
  if run.isEmpty then none else some (run, s.dropWhile accept)

/-- The first result of a reader over the ends of a text, from the longest to the shortest. -/
def firstOf? {α : Type} (read? : List Char → Option α) : List Char → Option α
  | [] => read? []
  | c :: rest =>
    match read? (c :: rest) with
    | some a => some a
    | none => firstOf? read? rest

end ThreatScan.Text
