import ThreatScan.Regex.Reader
import ThreatScan.Regex.Search
/-!
From a written pattern to one that can be matched.

Here the flags take effect. A look behind needs a body of one width, and under the template flag nothing may be repeated.
What is known of the beginning of a match limits the places that are tried. A class at the beginning is then taken under the
flags of the whole pattern, whatever the flags of the group that it stands in.
-/
namespace ThreatScan.Regex

/-- A look behind is shorter than this. -/
def behindLimit : Nat := 2147483648

mutual

def Item.pattern? (groups : Nat → Width) (f : Flags) : Item → Option Pattern
  | .char negated code => some (.one (.letter f.ignoreCase f.ascii negated code))
  | .set negated entries => some (.one (.make f.ignoreCase f.ascii negated entries))
  | .dot => some (.one (if f.dotAll then .any else .noLineFeed))
  | .sign sign => some (.anchor (sign.anchor f))
  | .again index => some (.again index (if f.ignoreCase then some f.ascii else none))
  | .branch alternatives => (branchPatterns? groups f alternatives).map .oneOf
  | .part index change body =>
    match patterns? groups (f.change change) body, index with
    | some ps, some i => some (.group i (.all ps))
    | some ps, none => some (.all ps)
    | none, _ => none
  | .atomic body => (patterns? groups f body).map fun ps => .atomic (.all ps)
  | .loop least most mode body =>
    if f.template then none
    else (patterns? groups f body).map fun ps => (Pattern.all ps).times least most mode
  | .ahead negated body => (patterns? groups f body).map fun ps => .ahead negated (.all ps)
  | .behind negated body =>
    let w := widthOfItems groups body
    if w.hi = some w.lo ∧ w.lo < behindLimit then
      (patterns? groups f body).map fun ps => .behind negated w.lo (.all ps)
    else none
  | .given index yes no =>
    match no with
    | none => (patterns? groups f yes).map fun ps => .given index (.all ps) .empty
    | some no =>
      match patterns? groups f yes, patterns? groups f no with
      | some ps, some qs => some (.given index (.all ps) (.all qs))
      | _, _ => none

def patterns? (groups : Nat → Width) (f : Flags) : List Item → Option (List Pattern)
  | [] => some []
  | i :: rest =>
    match i.pattern? groups f, patterns? groups f rest with
    | some p, some ps => some (p :: ps)
    | _, _ => none

def branchPatterns? (groups : Nat → Width) (f : Flags) : List (List Item) → Option (List Pattern)
  | [] => some []
  | items :: rest =>
    match patterns? groups f items, branchPatterns? groups f rest with
    | some ps, some qs => some (.all ps :: qs)
    | _, _ => none

end

/-- The code point has case, and case is ignored. -/
def Flags.minds (f : Flags) (code : Nat) : Bool := f.ignoreCase && isCasedCode f.ascii code

mutual

/-- Whether the item begins with a fixed character, and whether it is made of fixed characters only. -/
def Item.fixed (f : Flags) : Item → Bool × Bool
  | .char false code => if f.minds code then (false, false) else (true, true)
  | .part _ change body => fixedStart (f.change change) body
  | _ => (false, false)

/-- Whether the items begin with a fixed character, and whether they are made of fixed characters only. -/
def fixedStart (f : Flags) : List Item → Bool × Bool
  | [] => (false, true)
  | i :: rest =>
    match i.fixed f with
    | (begins, false) => (begins, false)
    | (begins, true) =>
      let (more, whole) := fixedStart f rest
      (begins || more, whole)

end

/-- The entry can stand in the class at the beginning of a match. -/
def Flags.allows (f : Flags) : ClassItem → Bool
  | .code n => !f.minds n
  | .span lo hi => !f.ignoreCase || (decide (hi < beyondBasic) && !isCasedSpan f.ascii lo hi)
  | _ => true

/-- The fixed characters that the alternatives begin with, if all do. -/
def firstCodes? (f : Flags) : List (List Item) → Option (List ClassItem)
  | [] => some []
  | (.char false code :: _) :: rest =>
    if f.minds code then none else (firstCodes? f rest).map (.code code :: ·)
  | _ => none

mutual

/-- The class of characters that an item begins with, if it is known. `whole` are the flags of the whole pattern. -/
def Item.firstClass? (whole f : Flags) : Item → Option CharClass
  | .part _ change body => firstClass? whole (f.change change) body
  | .branch alternatives =>
    (firstCodes? f alternatives).map fun items =>
      { items, negated := false, ignoreCase := false, ascii := whole.ascii }
  | .set negated items =>
    if items.all f.allows then some { items, negated, ignoreCase := false, ascii := whole.ascii } else none
  | _ => none

def firstClass? (whole f : Flags) : List Item → Option CharClass
  | [] => none
  | i :: _ => i.firstClass? whole f

end

namespace Written

def lead (w : Written) : Lead :=
  if (widthOfItems w.groupWidth w.items).lo = 0 then .anywhere
  else if (fixedStart w.flags w.items).1 then .character
  else
    match firstClass? w.flags w.flags w.items with
    | some set => .among set
    | none => .anywhere

def program? (w : Written) : Option Program :=
  (patterns? w.groupWidth w.flags w.items).map fun ps =>
    { pattern := .all ps, least := (widthOfItems w.groupWidth w.items).lo, lead := w.lead }

end Written

/-- Reads a pattern under the given options; none if the text is not a pattern. -/
def compileWith? (flags : Flags) (s : String) : Option Program := (readPattern? flags s).bind (·.program?)

def compile? (s : String) : Option Program := compileWith? {} s

end ThreatScan.Regex
