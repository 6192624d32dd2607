import ThreatScan.Regex.CharClass
/-!
Search patterns, ready to be matched.
-/
namespace ThreatScan.Regex

inductive Anchor where
  | textStart
  /-- Before the first character or after a line feed. -/
  | lineStart
  | textEnd
  /-- After the last character, or before a line feed that is the last character. -/
  | finalEnd
  /-- After the last character or before a line feed. -/
  | lineEnd
  /-- Between a word character and no word character. -/
  | wordEdge (ascii : Bool)
  /-- Between two word characters or two others. -/
  | noWordEdge (ascii : Bool)
  deriving DecidableEq, Repr

/-- Which number of repetitions is tried first, and whether a choice can be taken back. -/
inductive Repetition where
  | greedy | lazy | possessive
  deriving DecidableEq, Repr

inductive Pattern where
  | empty
  | one (set : CharClass)
  | seq (first second : Pattern)
  | alt (first second : Pattern)
  /-- A repeated character. If the class of the character after it is known, `next` gives it. -/
  | charLoop (set : CharClass) (least : Nat) (most : Option Nat) (mode : Repetition) (next : Option CharClass)
  | loop (body : Pattern) (least : Nat) (most : Option Nat) (mode : Repetition)
  | group (index : Nat) (body : Pattern)
  /-- The text that a group matched last; `fold` says how the lower case is taken when case is ignored. -/
  | again (index : Nat) (fold : Option Bool)
  | anchor (place : Anchor)
  | ahead (negated : Bool) (body : Pattern)
  | behind (negated : Bool) (width : Nat) (body : Pattern)
  | atomic (body : Pattern)
  /-- One of two patterns, by whether a group has matched. -/
  | given (index : Nat) (yes no : Pattern)
  deriving DecidableEq, Repr

namespace Pattern

def times (p : Pattern) (least : Nat) (most : Option Nat) (mode : Repetition) : Pattern :=
  match p with
  | .one set => .charLoop set least most mode none
  | p => .loop p least most mode

/-- The class that every match begins with a character of, if it is plain to see. -/
def firstSet? : Pattern → Option CharClass
  | .one set => some set
  | .charLoop set least _ _ _ => if 0 < least then some set else none
  | .seq p _ => p.firstSet?
  | _ => none

def before (p q : Pattern) : Pattern :=
  match p with
  | .charLoop set least most mode _ => .seq (.charLoop set least most mode q.firstSet?) q
  | p => .seq p q

def all : List Pattern → Pattern
  | [] => .empty
  | [p] => p
  | p :: ps => p.before (all ps)

/-- The first of several patterns that leads to a match. -/
def oneOf : List Pattern → Pattern
  | [] => .empty
  | [p] => p
  | p :: ps => .alt p (oneOf ps)

end Pattern
end ThreatScan.Regex
