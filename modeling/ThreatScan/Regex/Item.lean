import ThreatScan.Regex.Pattern
/-!
Patterns as they are written: sequences of items.

The flags in force decide what an item means only when the pattern is made ready for matching, so an item says what was
written and a group may carry changes of the flags.
-/
namespace ThreatScan.Regex

/-- The options under which a pattern is read. -/
structure Flags where
  ignoreCase : Bool := false
  multiline : Bool := false
  dotAll : Bool := false
  verbose : Bool := false
  ascii : Bool := false
  unicode : Bool := false
  template : Bool := false
  deriving DecidableEq, Repr

/-- The flags that a group turns on and off, by their letters. -/
structure FlagChange where
  on : List Char
  off : List Char
  deriving DecidableEq, Repr

namespace FlagChange

def none : FlagChange := ⟨[], []⟩

def isNone (c : FlagChange) : Bool := c.on.isEmpty && c.off.isEmpty

end FlagChange

namespace Flags

def turnOn (f : Flags) : Char → Flags
  | 'i' => { f with ignoreCase := true }
  | 'm' => { f with multiline := true }
  | 's' => { f with dotAll := true }
  | 'x' => { f with verbose := true }
  | 'a' => { f with ascii := true }
  | 'u' => { f with unicode := true }
  | 't' => { f with template := true }
  | _ => f

def turnOff (f : Flags) : Char → Flags
  | 'i' => { f with ignoreCase := false }
  | 'm' => { f with multiline := false }
  | 's' => { f with dotAll := false }
  | 'x' => { f with verbose := false }
  | _ => f

/-- The flags inside a group with flags of its own. -/
def change (f : Flags) (c : FlagChange) : Flags :=
  let f := if c.on.contains 'a' then { f with ascii := true, unicode := false }
    else if c.on.contains 'u' then { f with ascii := false, unicode := true } else f
  c.off.foldl turnOff (c.on.foldl turnOn f)

end Flags

inductive AnchorSign where
  | caret | dollar | textStart | textEnd | wordEdge | noWordEdge
  deriving DecidableEq, Repr

def AnchorSign.anchor (f : Flags) : AnchorSign → Anchor
  | .caret => if f.multiline then .lineStart else .textStart
  | .dollar => if f.multiline then .lineEnd else .finalEnd
  | .textStart => .textStart
  | .textEnd => .textEnd
  | .wordEdge => .wordEdge f.ascii
  | .noWordEdge => .noWordEdge f.ascii

inductive Item where
  /-- One character, or every other. -/
  | char (negated : Bool) (code : Nat)
  | set (negated : Bool) (entries : List ClassItem)
  | dot
  | sign (sign : AnchorSign)
  | again (index : Nat)
  | branch (alternatives : List (List Item))
  /-- A group, which may capture what it matches and may change the flags. -/
  | part (index : Option Nat) (flags : FlagChange) (body : List Item)
  | atomic (body : List Item)
  | loop (least : Nat) (most : Option Nat) (mode : Repetition) (body : List Item)
  | ahead (negated : Bool) (body : List Item)
  | behind (negated : Bool) (body : List Item)
  | given (index : Nat) (yes : List Item) (no : Option (List Item))

/-- The least and the greatest number of characters of a match; no greatest if there is none. -/
structure Width where
  lo : Nat
  hi : Option Nat
  deriving DecidableEq, Repr

namespace Width

def zero : Width := ⟨0, some 0⟩

def one : Width := ⟨1, some 1⟩

def add (a b : Width) : Width :=
  ⟨a.lo + b.lo, match a.hi, b.hi with
    | some m, some n => some (m + n)
    | _, _ => none⟩

def either (a b : Width) : Width :=
  ⟨min a.lo b.lo, match a.hi, b.hi with
    | some m, some n => some (max m n)
    | _, _ => none⟩

def times (a : Width) (least : Nat) (most : Option Nat) : Width :=
  ⟨a.lo * least, match a.hi, most with
    | some 0, _ => some 0
    | _, some 0 => some 0
    | some n, some k => some (n * k)
    | _, _ => none⟩

end Width

mutual

/-- The width of an item, given the widths of the groups before it. -/
def Item.width (groups : Nat → Width) : Item → Width
  | .char _ _ => .one
  | .set _ _ => .one
  | .dot => .one
  | .sign _ => .zero
  | .again index => groups index
  | .branch alternatives => widthOfBranch groups alternatives
  | .part _ _ body => widthOfItems groups body
  | .atomic body => widthOfItems groups body
  | .loop least most _ body => (widthOfItems groups body).times least most
  | .ahead _ _ => .zero
  | .behind _ _ => .zero
  | .given _ yes no =>
    match no with
    | some no => (widthOfItems groups yes).either (widthOfItems groups no)
    | none => (widthOfItems groups yes).either .zero

def widthOfItems (groups : Nat → Width) : List Item → Width
  | [] => .zero
  | i :: rest => (i.width groups).add (widthOfItems groups rest)

def widthOfBranch (groups : Nat → Width) : List (List Item) → Width
  | [] => .zero
  | [items] => widthOfItems groups items
  | items :: rest => (widthOfItems groups items).either (widthOfBranch groups rest)

end

/-- The items are written alike. Items that hold other items never are. -/
def Item.alike : Item → Item → Bool
  | .char a m, .char b n => a == b && m == n
  | .set a s, .set b t => a == b && s == t
  | .dot, .dot => true
  | .sign a, .sign b => a == b
  | .again i, .again j => i == j
  | _, _ => false

/-- The entries that an item adds to a class of alternatives. -/
def Item.entries? : Item → Option (List ClassItem)
  | .char false code => some [.code code]
  | .set false entries => some entries
  | _ => none

def sameHead : List (List Item) → Bool
  | (i :: _) :: rest => rest.all fun
    | j :: _ => i.alike j
    | [] => false
  | _ => false

/-- The entries of a class that stands for the alternatives, if each is one character or class. -/
def classOf? : List (List Item) → Option (List ClassItem)
  | [] => some []
  | [i] :: rest =>
    match i.entries?, classOf? rest with
    | some entries, some more => some (entries ++ more)
    | _, _ => none
  | _ => none

/-- What alternatives are made of, once a common beginning is taken out: a class, or a branch. -/
def branchOf (alternatives : List (List Item)) : Item :=
  match classOf? alternatives with
  | some entries => .set false entries.eraseDups
  | none => .branch alternatives

/-- Alternatives as a sequence: first what they have in common, at most `fuel` items of it. -/
def alternativesFrom : Nat → List (List Item) → List Item
  | 0, alternatives => [branchOf alternatives]
  | fuel + 1, alternatives =>
    match alternatives with
    | (i :: _) :: _ =>
      if sameHead alternatives then i :: alternativesFrom fuel (alternatives.map List.tail)
      else [branchOf alternatives]
    | _ => [branchOf alternatives]

def alternativesOf : List (List Item) → List Item
  | [items] => items
  | alternatives => alternativesFrom ((alternatives.head?.getD []).length) alternatives

/-- A group that neither captures nor changes flags is only its items. -/
def Item.unpack : Item → List Item
  | .part none change body => if change.isNone then body else [.part none change body]
  | i => [i]

end ThreatScan.Regex
