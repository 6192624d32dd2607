import ThreatScan.Regex.Search
/-!
Words for putting search patterns together.
-/
namespace ThreatScan.Regex.Pattern

def char (c : Char) : Pattern := .one (.only c)

def lit (s : String) : Pattern := all (s.toList.map char)

def category (k : Category) : Pattern :=
  .one { items := [.category k false], negated := false, ignoreCase := false, ascii := false }

def blank : Pattern := category .space

def digit : Pattern := category .digit

def wordChar : Pattern := category .word

/-- A character of the list or of a category. -/
def charIn (codes : List Char) (kinds : List Category) : Pattern :=
  .one { items := kinds.map (.category · false) ++ codes.map (.code ·.toNat), negated := false, ignoreCase := false,
         ascii := false }

def charNotIn (codes : List Char) : Pattern :=
  .one { items := codes.map (.code ·.toNat), negated := true, ignoreCase := false, ascii := false }

/-- Any number of times, as often as possible. -/
def many (p : Pattern) : Pattern := p.times 0 none .greedy

/-- At least once, as often as possible. -/
def many1 (p : Pattern) : Pattern := p.times 1 none .greedy

/-- Any number of times, as rarely as possible. -/
def few (p : Pattern) : Pattern := p.times 0 none .lazy

def optional (p : Pattern) : Pattern := p.times 0 (some 1) .greedy

def blanks : Pattern := many blank

def blanks1 : Pattern := many1 blank

def word : Pattern := many1 wordChar

end ThreatScan.Regex.Pattern
