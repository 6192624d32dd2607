import ThreatScan.Regex.Pattern
/-!
Matching by backtracking.

A pattern is run at a place of a text with a continuation, which decides whether a way of matching the pattern is
acceptable; the ways are tried in order and the first acceptable one counts. A repetition whose last round consumed nothing
is not tried again, so the characters left bound the number of rounds.

The places where groups begin and end are marked on the way. Marks survive a failure: before the next way is tried, the marks
made since are dropped, but a mark that was moved since is put back inside a repeated pattern only. A group that is open can
therefore look as if it had matched, and one that was left half-way can seem to end before it begins.
-/
namespace ThreatScan.Regex

/-- The places marked so far: group `i` begins at mark `2 i - 2` and ends at mark `2 i - 1`. -/
abbrev Marks := List (Option Nat)

namespace Marks

/-- Sets a mark; those skipped are empty. -/
def put : Marks → Nat → Nat → Marks
  | [], 0, pos => [some pos]
  | [], i + 1, pos => none :: put [] i pos
  | _ :: m, 0, pos => some pos :: m
  | mark :: m, i + 1, pos => mark :: put m i pos

/-- The first marks of `now`, as many as there are in `saved`. -/
def cut : (saved now : Marks) → Marks
  | _ :: saved, mark :: now => mark :: cut saved now
  | _, _ => []

/-- Where a group begins and ends, if it does so in this order. -/
def span? (m : Marks) (index : Nat) : Option (Nat × Nat) :=
  match m[2 * index - 2]?, m[2 * index - 1]? with
  | some (some a), some (some b) => if a ≤ b then some (a, b) else none
  | _, _ => none

/-- The marks to go on with after a failure, `saved` being those before it. -/
def back (inLoop : Bool) (saved now : Marks) : Marks :=
  if inLoop then saved else cut saved now

/-- Some group seems to end before it begins. -/
def crossed : Marks → Bool
  | some a :: some b :: rest => decide (b < a) || crossed rest
  | _ :: _ :: rest => crossed rest
  | _ => false

end Marks

inductive Outcome where
  | fails (marks : Marks)
  | stops (pos : Nat) (marks : Marks)
  deriving DecidableEq, Repr

/-- What is to be done after a pattern at a place. -/
abbrev Continuation := Nat → Marks → Outcome

/-- What a pattern does at a place with a continuation. -/
abbrev Run := Nat → Marks → Continuation → Outcome

def isWordAt (ascii : Bool) (s : Array Char) (pos : Nat) : Bool := s[pos]?.any (Category.word.has ascii)

def isWordBefore (ascii : Bool) (s : Array Char) (pos : Nat) : Bool :=
  decide (0 < pos) && isWordAt ascii s (pos - 1)

/-- The place is of the kind. In an empty text there is no word edge and no place between words. -/
def Anchor.holds (s : Array Char) (pos : Nat) : Anchor → Bool
  | .textStart => pos == 0
  | .lineStart => pos == 0 || s[pos - 1]? == some '\n'
  | .textEnd => pos == s.size
  | .finalEnd => pos == s.size || (pos + 1 == s.size && s[pos]? == some '\n')
  | .lineEnd => pos == s.size || s[pos]? == some '\n'
  | .wordEdge ascii => !s.isEmpty && (isWordBefore ascii s pos != isWordAt ascii s pos)
  | .noWordEdge ascii => !s.isEmpty && (isWordBefore ascii s pos == isWordAt ascii s pos)

/-- The characters at two places are equal, letter by letter or in lower case. -/
def alikeAt (fold : Option Bool) (s : Array Char) (a b : Nat) : Bool :=
  match s[a]?, s[b]?, fold with
  | some x, some y, none => x == y
  | some x, some y, some ascii => lowerCode ascii x.toNat == lowerCode ascii y.toNat
  | _, _, _ => false

/-- As many characters from `a` on as `count` says are found again from `b` on. -/
def sameText (fold : Option Bool) (s : Array Char) (a b : Nat) : Nat → Bool
  | 0 => true
  | count + 1 => alikeAt fold s a b && sameText fold s (a + 1) (b + 1) count

def CharClass.fits (set : CharClass) (s : Array Char) (pos : Nat) : Bool :=
  match s[pos]? with
  | some c => set.has c
  | none => false

/-- Where the characters of the class from a place on end, at most `limit` characters further. -/
def runEnd (set : CharClass) (s : Array Char) : Nat → Nat → Nat
  | pos, 0 => pos
  | pos, limit + 1 => if set.fits s pos then runEnd set s (pos + 1) limit else pos

/-- What comes next may begin at a place. -/
def fitsNext (s : Array Char) (pos : Nat) : Option CharClass → Bool
  | some set => set.fits s pos
  | none => true

/-- Goes on `extra` characters after a place, then after one less, down to the place itself. -/
def shrinkRun (s : Array Char) (next : Option CharClass) (inLoop : Bool) (pos : Nat) (saved : Marks) (k : Continuation) :
    Nat → Marks → Outcome
  | 0, m =>
    if fitsNext s pos next then
      match k pos m with
      | .fails now => .fails (saved.back inLoop now)
      | found => found
    else .fails m
  | extra + 1, m =>
    if fitsNext s (pos + extra + 1) next then
      match k (pos + extra + 1) m with
      | .fails now => shrinkRun s next inLoop pos saved k extra (saved.back inLoop now)
      | found => found
    else shrinkRun s next inLoop pos saved k extra m

/-- Goes on at a place, then one character further, at most `extra` characters. -/
def growRun (s : Array Char) (next : Option CharClass) (inLoop : Bool) (saved : Marks) (k : Continuation) :
    Nat → Nat → Marks → Outcome
  | 0, pos, m =>
    if fitsNext s pos next then
      match k pos m with
      | .fails now => .fails (saved.back inLoop now)
      | found => found
    else .fails m
  | extra + 1, pos, m =>
    if fitsNext s pos next then
      match k pos m with
      | .fails now => growRun s next inLoop saved k extra (pos + 1) (saved.back inLoop now)
      | found => found
    else growRun s next inLoop saved k extra (pos + 1) m

/-- After `count` rounds one more may follow: there are not too many yet, and the previous round beyond the least number
did not begin here. -/
@[inline] def mayRepeat (most : Option Nat) (count : Nat) (last : Option Nat) (pos : Nat) : Bool :=
  (match most with
    | some n => decide (count < n)
    | none => true) &&
  match last with
    | some p => p != pos
    | none => true

/-- Rounds of `body`, as many as possible first. `last` is the place where the previous round beyond the least number
began. -/
def greedyLoop (body : Run) (least : Nat) (most : Option Nat) (k : Continuation) :
    Nat → Nat → Option Nat → Nat → Marks → Outcome
  | 0, _, _, _, m => .fails m
  | fuel + 1, count, last, pos, m =>
    if count < least then body pos m fun p m => greedyLoop body least most k fuel (count + 1) last p m
    else if mayRepeat most count last pos then
      match body pos m fun p m => greedyLoop body least most k fuel (count + 1) (some pos) p m with
      | .fails _ => k pos m
      | found => found
    else k pos m

/-- Rounds of `body`, as few as possible first. -/
def lazyLoop (inLoop : Bool) (body : Run) (least : Nat) (most : Option Nat) (k : Continuation) :
    Nat → Nat → Option Nat → Nat → Marks → Outcome
  | 0, _, _, _, m => .fails m
  | fuel + 1, count, last, pos, m =>
    if count < least then body pos m fun p m => lazyLoop inLoop body least most k fuel (count + 1) last p m
    else
      match k pos m with
      | .fails now =>
        let m := m.back inLoop now
        if mayRepeat most count last pos then
          body pos m fun p m => lazyLoop inLoop body least most k fuel (count + 1) (some pos) p m
        else .fails m
      | found => found

/-- Rounds of `body`, each taken in its first way and never taken back. -/
def possessiveLoop (body : Run) (least : Nat) (most : Option Nat) : Nat → Nat → Option Nat → Nat → Marks → Outcome
  | 0, _, _, _, m => .fails m
  | fuel + 1, count, last, pos, m =>
    if count < least then
      match body pos m .stops with
      | .stops p m => possessiveLoop body least most fuel (count + 1) last p m
      | .fails m => .fails m
    else if mayRepeat most count last pos then
      match body pos m .stops with
      | .stops p now => possessiveLoop body least most fuel (count + 1) (some pos) p now
      | .fails _ => .stops pos m
    else .stops pos m

/-- Runs a pattern at a place of a text; the answer is that of the continuation at the first acceptable way. -/
def Pattern.attempt (s : Array Char) : Pattern → Bool → Nat → Marks → Continuation → Outcome
  | .empty, _, pos, m, k => k pos m
  | .one set, _, pos, m, k => if set.fits s pos then k (pos + 1) m else .fails m
  | .seq a b, inLoop, pos, m, k => a.attempt s inLoop pos m fun p m => b.attempt s inLoop p m k
  | .alt a b, inLoop, pos, m, k =>
    match a.attempt s inLoop pos m k with
    | .fails now =>
      match b.attempt s inLoop pos (m.back inLoop now) k with
      | .fails now => .fails (m.back inLoop now)
      | found => found
    | found => found
  | .charLoop set least most mode next, inLoop, pos, m, k =>
    let room := s.size - pos
    let stop := runEnd set s pos (match most with
      | some n => min n room
      | none => room)
    if stop < pos + least then .fails m
    else
      match mode with
      | .greedy => shrinkRun s next inLoop (pos + least) m k (stop - (pos + least)) m
      | .lazy => growRun s next inLoop m k (stop - (pos + least)) (pos + least) m
      | .possessive => k stop m
  | .loop body least most mode, inLoop, pos, m, k =>
    let fuel := least + (s.size - pos) + 2
    match mode with
    | .greedy => greedyLoop (body.attempt s true) least most k fuel 0 none pos m
    | .lazy => lazyLoop inLoop (body.attempt s true) least most k fuel 0 none pos m
    | .possessive =>
      match possessiveLoop (body.attempt s inLoop) least most fuel 0 none pos m with
      | .stops p m => k p m
      | .fails m => .fails m
  | .group index body, inLoop, pos, m, k =>
    body.attempt s inLoop pos (m.put (2 * index - 2) pos) fun p m => k p (m.put (2 * index - 1) p)
  | .again index fold, _, pos, m, k =>
    match m.span? index with
    | none => .fails m
    | some (a, b) => if sameText fold s a pos (b - a) then k (pos + (b - a)) m else .fails m
  | .anchor place, _, pos, m, k => if place.holds s pos then k pos m else .fails m
  | .ahead negated body, inLoop, pos, m, k =>
    match body.attempt s inLoop pos m .stops with
    | .stops _ now => if negated then .fails now else k pos now
    | .fails now => if negated then k pos (m.back inLoop now) else .fails now
  | .behind negated width body, inLoop, pos, m, k =>
    if pos < width then (if negated then k pos m else .fails m)
    else
      match body.attempt s inLoop (pos - width) m .stops with
      | .stops _ now => if negated then .fails now else k pos now
      | .fails now => if negated then k pos (m.back inLoop now) else .fails now
  | .atomic body, inLoop, pos, m, k =>
    match body.attempt s inLoop pos m .stops with
    | .stops p m => k p m
    | .fails m => .fails m
  | .given index yes no, inLoop, pos, m, k =>
    if (m.span? index).isSome then yes.attempt s inLoop pos m k else no.attempt s inLoop pos m k

end ThreatScan.Regex
