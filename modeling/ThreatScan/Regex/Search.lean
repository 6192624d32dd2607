import ThreatScan.Regex.Matcher
/-!
Finding matches in a text: at the start, the leftmost one, and all that do not overlap.

After an empty match the search goes on at the same place, but the next match there must not be empty. A match in which a
group seems to end before it begins breaks the search off.
-/
namespace ThreatScan.Regex

/-- A match: its place, its text and the texts of its groups. -/
structure Match where
  start : Nat
  stop : Nat
  text : List Char
  groups : List (Nat × List Char)
  deriving DecidableEq, Repr

def textBetween (s : Array Char) (a b : Nat) : List Char := (s.extract a b).toList

namespace Match

def group? (m : Match) (index : Nat) : Option String := (m.groups.lookup index).map String.ofList

/-- The text of a group, empty if the group took no part. -/
def groupText (m : Match) (index : Nat) : String := (m.group? index).getD ""

def textString (m : Match) : String := String.ofList m.text

def groupsOf (s : Array Char) (marks : Marks) : List (Nat × List Char) :=
  (List.range (marks.length / 2)).filterMap fun i =>
    (marks.span? (i + 1)).map fun (a, b) => (i + 1, textBetween s a b)

def of (s : Array Char) (start stop : Nat) (marks : Marks) : Match :=
  { start, stop, text := textBetween s start stop, groups := groupsOf s marks }

end Match

inductive Hit where
  | nothing
  | found (start stop : Nat) (marks : Marks)
  deriving DecidableEq, Repr

namespace Pattern

/-- Where the first way to match at a place ends. -/
def stopAt (p : Pattern) (s : Array Char) (notEmpty : Bool) (pos : Nat) : Hit :=
  match p.attempt s false pos [] fun stop m => if notEmpty && stop == pos then .fails m else .stops stop m with
  | .stops stop m => .found pos stop m
  | .fails _ => .nothing

/-- The first match that begins at one of `count + 1` places from `pos` on, where `may` allows it. -/
def searchFrom (p : Pattern) (s : Array Char) (may : Nat → Bool) (notEmpty : Bool) (pos : Nat) : Nat → Hit
  | 0 => if may pos then p.stopAt s notEmpty pos else .nothing
  | count + 1 =>
    match if may pos then p.stopAt s notEmpty pos else .nothing with
    | .nothing => searchFrom p s may false (pos + 1) count
    | hit => hit

def matchStart? (p : Pattern) (text : String) : Option Match :=
  let s := text.toList.toArray
  match p.stopAt s false 0 with
  | .found start stop marks => some (.of s start stop marks)
  | .nothing => none

def find? (p : Pattern) (text : String) : Option Match :=
  let s := text.toList.toArray
  match p.searchFrom s (fun _ => true) false 0 s.size with
  | .found start stop marks => some (.of s start stop marks)
  | .nothing => none

def occursIn (p : Pattern) (text : String) : Bool := (p.find? text).isSome

end Pattern

inductive Lead where
  | anywhere
  | character
  | among (set : CharClass)
  deriving DecidableEq, Repr

/-- A pattern with what is known of its matches: the least number of characters, and where they begin. -/
structure Program where
  pattern : Pattern
  least : Nat
  lead : Lead
  deriving DecidableEq, Repr

structure Findings where
  matched : List Match
  /-- The search was broken off. -/
  broken : Bool
  deriving DecidableEq, Repr

namespace Program

/-- The leftmost match at or after a place. Places with too few characters after them are not tried. -/
def search (p : Program) (s : Array Char) (notEmpty : Bool) (pos : Nat) : Hit :=
  let room := s.size - pos
  if room < p.least then .nothing
  else
    match p.lead with
    | .anywhere => p.pattern.searchFrom s (fun _ => true) notEmpty pos (room - (p.least - 1))
    | .character => p.pattern.searchFrom s (fun i => decide (i < s.size)) false pos room
    | .among set => p.pattern.searchFrom s (fun i => set.fits s i) false pos room

/-- The matches from a place on, at most `fuel` of them. -/
def findFrom (p : Program) (s : Array Char) : Nat → Bool → Nat → Findings
  | 0, _, _ => ⟨[], false⟩
  | fuel + 1, notEmpty, pos =>
    match p.search s notEmpty pos with
    | .nothing => ⟨[], false⟩
    | .found start stop marks =>
      if marks.crossed then ⟨[], true⟩
      else
        let rest := p.findFrom s fuel (start == stop) stop
        ⟨.of s start stop marks :: rest.matched, rest.broken⟩

/-- The matches that do not overlap, from left to right. Each place has at most two, of which one is empty. -/
def findAll (p : Program) (text : String) : Findings :=
  let s := text.toList.toArray
  p.findFrom s (2 * s.size + 3) false 0

end Program
end ThreatScan.Regex
