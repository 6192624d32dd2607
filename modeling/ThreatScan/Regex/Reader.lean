import ThreatScan.Regex.Item
import ThreatScan.Text.Identifier
import ThreatScan.Text.Integer
import ThreatScan.Text.Name
/-!
The written form of search patterns.

A pattern is a text of literals, classes in brackets, groups, alternatives, repetitions, anchors, looks ahead and behind,
references to groups and inline flags. A text that is not a pattern is refused: among others an unbalanced bracket, a
repetition of nothing or of a repetition, an unknown escape, a reference to a group that is not closed, and groups nested
too deeply.
-/
namespace ThreatScan.Regex

/-- A character of a written pattern, with or without a backslash before it. -/
inductive Token where
  | plain (c : Char)
  | escaped (c : Char)
  deriving DecidableEq, Repr

def Token.chars : Token → List Char
  | .plain c => [c]
  | .escaped c => ['\\', c]

/-- The tokens of a text; none if it ends in a lone backslash. -/
def tokens? : List Char → Option (List Token)
  | [] => some []
  | '\\' :: c :: rest => (tokens? rest).map (.escaped c :: ·)
  | c :: rest => if c = '\\' then none else (tokens? rest).map (.plain c :: ·)

structure Reading where
  rest : List Token
  flags : Flags
  /-- The number of the next group. -/
  next : Nat
  /-- The groups closed so far. -/
  widths : List (Nat × Width)
  names : List (String × Nat)
  /-- Inside a look behind, the number of the next group at its start. -/
  behindFrom : Option Nat
  /-- The groups that conditions ask about. -/
  asked : List Nat

namespace Reading

def isClosed (r : Reading) (index : Nat) : Bool := (r.widths.lookup index).isSome

def groupWidth (r : Reading) (index : Nat) : Width := (r.widths.lookup index).getD .zero

/-- Inside a look behind, only groups closed before it can be referred to. -/
def canRefer (r : Reading) (index : Nat) : Bool :=
  match r.behindFrom with
  | none => true
  | some first => r.isClosed index && decide (index < first)

end Reading

/-- At most `n` plain tokens that satisfy the test. -/
def takeTokens (test : Char → Bool) : Nat → List Token → List Char × List Token
  | n + 1, .plain c :: rest =>
    if test c then
      let (cs, rest) := takeTokens test n rest
      (c :: cs, rest)
    else ([], .plain c :: rest)
  | _, rest => ([], rest)

/-- The characters up to a closing mark, which must not be the first; both are consumed. -/
def takeName? (mark : Char) : List Char → List Token → Option (String × List Token)
  | _, [] => none
  | acc, t :: rest =>
    if t = .plain mark then (if acc.isEmpty then none else some (String.ofList acc, rest))
    else takeName? mark (acc ++ t.chars) rest

def isHexDigit (c : Char) : Bool :=
  decide ('0' ≤ c ∧ c ≤ '9') || decide ('a' ≤ c ∧ c ≤ 'f') || decide ('A' ≤ c ∧ c ≤ 'F')

def isOctalDigit (c : Char) : Bool := decide ('0' ≤ c ∧ c ≤ '7')

def isAsciiDigit (c : Char) : Bool := decide ('0' ≤ c ∧ c ≤ '9')

def isAsciiLetter (c : Char) : Bool := decide ('a' ≤ c ∧ c ≤ 'z') || decide ('A' ≤ c ∧ c ≤ 'Z')

def digitOf (c : Char) : Nat :=
  if isAsciiDigit c then c.toNat - '0'.toNat
  else if 'a' ≤ c ∧ c ≤ 'f' then c.toNat - 'a'.toNat + 10
  else c.toNat - 'A'.toNat + 10

def numeral (base : Nat) (ds : List Char) : Nat := ds.foldl (fun n c => n * base + digitOf c) 0

def controlEscape? : Char → Option Nat
  | 'a' => some 0x07
  | 'b' => some 0x08
  | 'f' => some 0x0C
  | 'n' => some 0x0A
  | 'r' => some 0x0D
  | 't' => some 0x09
  | 'v' => some 0x0B
  | '\\' => some 0x5C
  | _ => none

def categoryEscape? : Char → Option ClassItem
  | 'd' => some (.category .digit false)
  | 'D' => some (.category .digit true)
  | 's' => some (.category .space false)
  | 'S' => some (.category .space true)
  | 'w' => some (.category .word false)
  | 'W' => some (.category .word true)
  | _ => none

def hexEscape? (n : Nat) (rest : List Token) : Option (Nat × List Token) :=
  let (ds, rest) := takeTokens isHexDigit n rest
  if ds.length = n ∧ numeral 16 ds < 0x110000 then some (numeral 16 ds, rest) else none

def nameEscape? : List Token → Option (Nat × List Token)
  | .plain '\x7b' :: rest => do
    let (name, rest) ← takeName? '\x7d' [] rest
    let code ← Text.characterNamed? name
    return (code, rest)
  | _ => none

/-- The escapes that stand for one code point, in a class and outside. -/
def codeEscape? (c : Char) (rest : List Token) : Option (Nat × List Token) :=
  if c = 'N' then nameEscape? rest
  else if c = 'x' then hexEscape? 2 rest
  else if c = 'u' then hexEscape? 4 rest
  else if c = 'U' then hexEscape? 8 rest
  else if isAsciiLetter c ∨ isAsciiDigit c then none
  else some (c.toNat, rest)

def classEscape? (c : Char) (rest : List Token) : Option (ClassItem × List Token) :=
  match controlEscape? c, categoryEscape? c with
  | some n, _ => some (.code n, rest)
  | none, some item => some (item, rest)
  | none, none =>
    if isOctalDigit c then
      let (ds, rest) := takeTokens isOctalDigit 2 rest
      let n := numeral 8 (c :: ds)
      if n ≤ 0o377 then some (.code n, rest) else none
    else (codeEscape? c rest).map fun (n, rest) => (.code n, rest)

def classEntry? (t : Token) (rest : List Token) : Option (ClassItem × List Token) :=
  match t with
  | .plain c => some (.code c.toNat, rest)
  | .escaped c => classEscape? c rest

/-- The entries of a class up to its closing bracket; `acc` holds those read, reversed. -/
def readClass? : Nat → List ClassItem → List Token → Option (List ClassItem × List Token)
  | 0, _, _ => none
  | _ + 1, _, [] => none
  | fuel + 1, acc, t :: rest =>
    if t = .plain ']' ∧ !acc.isEmpty then some (acc.reverse, rest)
    else
      match classEntry? t rest with
      | none => none
      | some (item, .plain '-' :: rest) =>
        match rest with
        | [] => none
        | .plain ']' :: rest => some ((.code '-'.toNat :: item :: acc).reverse, rest)
        | u :: rest =>
          match item, classEntry? u rest with
          | .code lo, some (.code hi, rest) => if lo ≤ hi then readClass? fuel (.span lo hi :: acc) rest else none
          | _, _ => none
      | some (item, rest) => readClass? fuel (item :: acc) rest

def isFlagLetter (c : Char) : Bool := ['i', 'L', 'm', 's', 'x', 'a', 't', 'u'].contains c

/-- Inline flags: for the whole pattern, or turned on and off inside one group. -/
inductive FlagGroup where
  | whole (on : List Char)
  | scoped (change : FlagChange)

/-- The letters after a minus sign, up to the colon. -/
def readOff? : List Char → List Token → Option (List Char × List Token)
  | acc, .plain ':' :: rest => if acc.isEmpty then none else some (acc, rest)
  | acc, .plain c :: rest =>
    if isFlagLetter c ∧ c ≠ 'a' ∧ c ≠ 'u' ∧ c ≠ 'L' then readOff? (c :: acc) rest else none
  | _, _ => none

/-- Inline flags from their first letter or minus sign on. -/
def readFlags? (on : List Char) : List Token → Option (FlagGroup × List Token)
  | .plain ')' :: rest => if on.isEmpty then none else some (.whole on, rest)
  | .plain ':' :: rest =>
    if on.isEmpty ∨ on.contains 't' then none else some (.scoped ⟨on, []⟩, rest)
  | .plain '-' :: rest =>
    if on.contains 't' then none
    else
      match readOff? [] rest with
      | some (off, rest) =>
        if off.contains 't' ∨ on.any (off.contains ·) then none else some (.scoped ⟨on, off⟩, rest)
      | none => none
  | .plain c :: rest =>
    if !isFlagLetter c ∨ c = 'L' then none
    else if (c = 'a' ∧ on.contains 'u') ∨ (c = 'u' ∧ on.contains 'a') then none
    else readFlags? (c :: on) rest
  | _ => none

/-- No group has this number or a greater one. -/
def groupLimit : Nat := 1073741823

/-- The number of a group that can be asked about. -/
def groupNumber? (s : String) : Option Nat :=
  match Text.integer? s with
  | some (.ofNat (n + 1)) => if n + 1 < groupLimit then some (n + 1) else none
  | _ => none

def reference? (r : Reading) (index : Nat) : Option Item :=
  if decide (index < r.next) && r.isClosed index && r.canRefer index then some (.again index) else none

def readEscape? (c : Char) (r : Reading) : Option (Item × Reading) :=
  match c with
  | 'A' => some (.sign .textStart, r)
  | 'Z' => some (.sign .textEnd, r)
  | 'b' => some (.sign .wordEdge, r)
  | 'B' => some (.sign .noWordEdge, r)
  | c =>
    match categoryEscape? c, controlEscape? c with
    | some entry, _ => some (.set false [entry], r)
    | none, some n => some (.char false n, r)
    | none, none =>
      if c = '0' then
        let (ds, rest) := takeTokens isOctalDigit 2 r.rest
        some (.char false (numeral 8 ds), { r with rest })
      else if isAsciiDigit c then
        let (more, rest) := takeTokens isAsciiDigit 1 r.rest
        let (third, afterThird) := takeTokens isOctalDigit 1 rest
        if isOctalDigit c ∧ more.any isOctalDigit ∧ !third.isEmpty then
          let n := numeral 8 (c :: more ++ third)
          if n ≤ 0o377 then some (.char false n, { r with rest := afterThird }) else none
        else
          let r := { r with rest }
          (reference? r (numeral 10 (c :: more))).map fun i => (i, r)
      else (codeEscape? c r.rest).map fun (n, rest) => (.char false n, { r with rest })

/-- A class as an item. A class of one code point is a character. -/
def classItem (negated : Bool) (entries : List ClassItem) : Item :=
  match entries.eraseDups with
  | [.code n] => .char negated n
  | entries => .set negated entries

/-- The greatest number of repetitions that can be written. -/
def repeatLimit : Nat := 4294967295

/-- The bounds of a repetition in braces, after the opening brace; none if the brace stands for itself. -/
def readBounds? (rest : List Token) : Option (List Char × List Char × List Token) :=
  if rest.head? = some (.plain '\x7d') then none
  else
    let (lo, rest) := takeTokens isAsciiDigit rest.length rest
    let (hi, rest) := match rest with
      | .plain ',' :: rest => takeTokens isAsciiDigit rest.length rest
      | rest => (lo, rest)
    match rest with
    | .plain '\x7d' :: rest => some (lo, hi, rest)
    | _ => none

/-- The mode that the token after a repetition asks for. -/
def readMode (rest : List Token) : Repetition × List Token :=
  match rest with
  | .plain '?' :: rest => (.lazy, rest)
  | .plain '+' :: rest => (.possessive, rest)
  | rest => (.greedy, rest)

def repeatLast? (least : Nat) (most : Option Nat) (items : List Item) (r : Reading) : Option (List Item × Reading) :=
  match items with
  | [] => none
  | .sign _ :: _ => none
  | .loop _ _ _ _ :: _ => none
  | i :: before =>
    let (mode, rest) := readMode r.rest
    some (.loop least most mode i.unpack :: before, { r with rest })

/-- Skips a comment in a verbose pattern, up to the end of its line. -/
def skipComment : List Token → List Token
  | [] => []
  | .plain '\n' :: rest => rest
  | _ :: rest => skipComment rest

/-- Skips a comment group, up to its closing parenthesis. -/
def skipCommentGroup? : List Token → Option (List Token)
  | [] => none
  | .plain ')' :: rest => some rest
  | _ :: rest => skipCommentGroup? rest

def isVerboseBlank (c : Char) : Bool := [0x20, 0x09, 0x0A, 0x0D, 0x0B, 0x0C].contains c.toNat

/-- A closing parenthesis must come next. -/
def close? (r : Reading) : Option Reading :=
  match r.rest with
  | .plain ')' :: rest => some { r with rest }
  | _ => none

/-- The start of a capturing group: its number, and its name if it has one. -/
def openGroup? (name : Option String) (r : Reading) : Option (Nat × Reading) :=
  match name with
  | none => some (r.next, { r with next := r.next + 1 })
  | some n =>
    if (r.names.lookup n).isSome then none
    else some (r.next, { r with next := r.next + 1, names := (n, r.next) :: r.names })

/-- How deeply groups can be nested: a group counts two, a condition one. -/
def nestingLimit : Nat := 986

inductive Opened where
  | item (i : Item)
  | comment
  | flags (on : List Char)

mutual

def readAlternatives? : Nat → Nat → Bool → Bool → Reading → Option (List Item × Reading)
  | 0, _, _, _, _ => none
  | fuel + 1, depth, top, verbose, r => do
    let (items, r) ← readSequence? fuel depth top verbose [] r
    let (more, r) ← readMore? fuel depth (if top then r.flags.verbose else verbose) r
    return (alternativesOf (items :: more), r)

def readMore? : Nat → Nat → Bool → Reading → Option (List (List Item) × Reading)
  | 0, _, _, _ => none
  | fuel + 1, depth, verbose, r =>
    match r.rest with
    | .plain '|' :: rest => do
      let (items, r) ← readSequence? fuel depth false verbose [] { r with rest }
      let (more, r) ← readMore? fuel depth verbose r
      return (items :: more, r)
    | _ => some ([], r)

/-- Items up to a bar, a closing parenthesis or the end; `items` holds those read, reversed. Flags for the whole pattern
stand at its very start only. -/
def readSequence? : Nat → Nat → Bool → Bool → List Item → Reading → Option (List Item × Reading)
  | 0, _, _, _, _, _ => none
  | fuel + 1, depth, first, verbose, items, r =>
    let go := fun (i : Item) => readSequence? fuel depth first verbose (i :: items)
    let again := fun (least : Nat) (most : Option Nat) (r : Reading) =>
      match repeatLast? least most items r with
      | some (items, r) => readSequence? fuel depth first verbose items r
      | none => none
    match r.rest with
    | [] => some (items.reverse.flatMap Item.unpack, r)
    | .escaped c :: rest =>
      match readEscape? c { r with rest } with
      | some (i, r) => go i r
      | none => none
    | .plain c :: rest =>
      let after := { r with rest }
      if c = '|' ∨ c = ')' then some (items.reverse.flatMap Item.unpack, r)
      else if verbose && isVerboseBlank c then readSequence? fuel depth first verbose items after
      else if verbose && c == '#' then
        readSequence? fuel depth first verbose items { r with rest := skipComment rest }
      else if c = '.' then go .dot after
      else if c = '^' then go (.sign .caret) after
      else if c = '$' then go (.sign .dollar) after
      else if c = '?' then again 0 (some 1) after
      else if c = '*' then again 0 none after
      else if c = '+' then again 1 none after
      else if c = '\x7b' then
        match readBounds? rest with
        | none => go (.char false c.toNat) after
        | some (lo, hi, rest) =>
          let least := numeral 10 lo
          let most := if hi.isEmpty then none else some (numeral 10 hi)
          if repeatLimit ≤ least then none
          else if most.any fun m => decide (repeatLimit ≤ m ∨ m < least) then none
          else again least most { r with rest }
      else if c = '[' then
        let (negated, rest) := match rest with
          | .plain '^' :: rest => (true, rest)
          | rest => (false, rest)
        match readClass? (rest.length + 1) [] rest with
        | some (entries, rest) => go (classItem negated entries) { r with rest }
        | none => none
      else if c = '(' then
        match readOpened? fuel depth verbose after with
        | some (.item i, r) => go i r
        | some (.comment, r) => readSequence? fuel depth first verbose items r
        | some (.flags on, r) =>
          if first && items.isEmpty then
            let flags := on.foldl Flags.turnOn r.flags
            readSequence? fuel depth first flags.verbose items { r with flags }
          else none
        | none => none
      else go (.char false c.toNat) after

/-- What follows an opening parenthesis, up to the closing one. -/
def readOpened? : Nat → Nat → Bool → Reading → Option (Opened × Reading)
  | 0, _, _, _ => none
  | fuel + 1, depth, verbose, r =>
    match r.rest with
    | .plain '?' :: .plain 'P' :: .plain '<' :: rest => do
      let (name, rest) ← takeName? '>' [] rest
      if !Text.isIdentifier name then none
      else
        let (index, r) ← openGroup? (some name) { r with rest }
        readCapture? fuel depth verbose index r
    | .plain '?' :: .plain 'P' :: .plain '=' :: rest => do
      let (name, rest) ← takeName? ')' [] rest
      let index ← r.names.lookup name
      let i ← reference? r index
      return (.item i, { r with rest })
    | .plain '?' :: .plain ':' :: rest => readPart? fuel depth verbose .none { r with rest }
    | .plain '?' :: .plain '>' :: rest => do
      let (items, r) ← readInside? fuel depth verbose { r with rest }
      return (.item (.atomic items), r)
    | .plain '?' :: .plain '#' :: rest => (skipCommentGroup? rest).map fun rest => (.comment, { r with rest })
    | .plain '?' :: .plain '=' :: rest => do
      let (items, r) ← readInside? fuel depth verbose { r with rest }
      return (.item (.ahead false items), r)
    | .plain '?' :: .plain '!' :: rest => do
      let (items, r) ← readInside? fuel depth verbose { r with rest }
      return (.item (.ahead true items), r)
    | .plain '?' :: .plain '<' :: .plain '=' :: rest => readBehind? fuel depth verbose false { r with rest }
    | .plain '?' :: .plain '<' :: .plain '!' :: rest => readBehind? fuel depth verbose true { r with rest }
    | .plain '?' :: .plain '(' :: rest => do
      let (name, rest) ← takeName? ')' [] rest
      let r := { r with rest }
      if Text.isIdentifier name then
        let index ← r.names.lookup name
        if r.canRefer index then readGiven? fuel depth verbose index r else none
      else
        let index ← groupNumber? name
        if r.canRefer index then readGiven? fuel depth verbose index { r with asked := index :: r.asked } else none
    | .plain '?' :: .plain c :: rest =>
      if !isFlagLetter c && c != '-' then none
      else
        match readFlags? [] (.plain c :: rest) with
        | some (.whole on, rest) => some (.flags on, { r with rest })
        | some (.scoped change, rest) =>
          readPart? fuel depth ((verbose || change.on.contains 'x') && !change.off.contains 'x') change { r with rest }
        | none => none
    | .plain '?' :: _ => none
    | _ => do
      let (index, r) ← openGroup? none r
      readCapture? fuel depth verbose index r

def readInside? : Nat → Nat → Bool → Reading → Option (List Item × Reading)
  | fuel + 1, depth + 2, verbose, r => do
    let (items, r) ← readAlternatives? fuel depth false verbose r
    let r ← close? r
    return (items, r)
  | _, _, _, _ => none

def readCapture? : Nat → Nat → Bool → Nat → Reading → Option (Opened × Reading)
  | 0, _, _, _, _ => none
  | fuel + 1, depth, verbose, index, r => do
    let (items, r) ← readInside? fuel depth verbose r
    return (.item (.part (some index) .none items),
      { r with widths := (index, widthOfItems r.groupWidth items) :: r.widths })

def readPart? : Nat → Nat → Bool → FlagChange → Reading → Option (Opened × Reading)
  | 0, _, _, _, _ => none
  | fuel + 1, depth, verbose, change, r => do
    let (items, r) ← readInside? fuel depth verbose r
    return (.item (.part none change items), r)

def readBehind? : Nat → Nat → Bool → Bool → Reading → Option (Opened × Reading)
  | 0, _, _, _, _ => none
  | fuel + 1, depth, verbose, negated, r => do
    let outer := r.behindFrom
    let (items, r) ← readInside? fuel depth verbose { r with behindFrom := some (outer.getD r.next) }
    return (.item (.behind negated items), { r with behindFrom := outer })

def readGiven? : Nat → Nat → Bool → Nat → Reading → Option (Opened × Reading)
  | fuel + 1, depth + 1, verbose, index, r => do
    let (yes, r) ← readSequence? fuel depth false verbose [] r
    match r.rest with
    | .plain '|' :: rest => do
      let (no, r) ← readSequence? fuel depth false verbose [] { r with rest }
      let r ← close? r
      return (.item (.given index yes (some no)), r)
    | _ => do
      let r ← close? r
      return (.item (.given index yes none), r)
  | _, _, _, _, _ => none

end

/-- A pattern as it was written, with the flags for the whole of it. -/
structure Written where
  items : List Item
  flags : Flags
  groupWidth : Nat → Width

/-- Reads a pattern under the given options; none if the text is not a pattern. -/
def readPattern? (flags : Flags) (s : String) : Option Written := do
  let ts ← tokens? s.toList
  let (items, r) ← readAlternatives? (4 * ts.length + 8) nestingLimit true flags.verbose ⟨ts, flags, 1, [], [], none, []⟩
  if !r.rest.isEmpty then none
  else if r.asked.any fun g => decide (r.next ≤ g) then none
  else if r.flags.ascii && r.flags.unicode then none
  else return { items, flags := r.flags, groupWidth := r.groupWidth }

end ThreatScan.Regex
