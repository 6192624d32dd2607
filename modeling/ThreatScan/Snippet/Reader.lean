import ThreatScan.Snippet.LineMarks
import ThreatScan.Snippet.Markup
import ThreatScan.Text.Order
/-!
The reader of snippets: the parts of a source around the lines that threats point to, as markup.

Each line brings the lines around it along, as far as the source goes; parts that overlap or touch are put together.
A marked line carries the highest severity among its marks, and the kinds of its threats as a title. Everything that comes
from the source or from a threat is escaped.
-/
namespace ThreatScan.Snippet

/-- The first and the last line of a part of a source. -/
abbrev LineRange := Int × Int

def around (context total line : Int) : LineRange := (max 1 (line - context), min total (line + context))

/-- Puts ranges in order of their starts together with the range before them. -/
def joinFrom (first last : Int) : List LineRange → List LineRange
  | [] => [(first, last)]
  | (s, e) :: rest => if last + 1 < s then (first, last) :: joinFrom s e rest else joinFrom first (max last e) rest

/-- Puts ranges in order of their starts together where they overlap or touch. -/
def joinRanges : List LineRange → List LineRange
  | [] => []
  | (s, e) :: rest => joinFrom s e rest

/-- The parts of a source of `total` lines around the given lines. -/
def contextRanges (lines : List Int) (total context : Int) : List LineRange :=
  joinRanges ((lines.map (around context total)).mergeSort fun a b => decide (a.1 ≤ b.1))

inductive Reading where
  | notice (text : String)
  | markup (html : String)
  deriving DecidableEq, Repr

/-- The rank of a severity; words that are none rank lowest. -/
def rank (severity : Value) : Nat :=
  match severity with
  | .str "critical" => 4
  | .str "high" => 3
  | .str "medium" => 2
  | .str "low" => 1
  | _ => 0

def rankWord : Nat → String
  | 4 => "critical"
  | 3 => "high"
  | 2 => "medium"
  | _ => "low"

def highest (marks : List Mark) : String := rankWord ((marks.map fun m => rank m.severity).foldl max 0)

/-- The different values of a list, each where it comes first. -/
def distinct : List Value → List Value
  | [] => []
  | v :: rest => v :: (distinct rest).filter fun w => !v.same w

def leastNumber (first : Value) (others : List Value) : Value :=
  others.foldl (fun least v => if Value.compareNumbers? v least == some .lt then v else least) first

/-- Why values that are not all texts cannot be put in order and joined. -/
def notTexts : List Value → Fault
  | [] => .joinNeedsText 0 .null
  | [v] => .joinNeedsText 0 v.kind
  | a :: b :: rest =>
    if (a :: b :: rest).all Value.isNumber then .joinNeedsText 0 (leastNumber a (b :: rest)).kind
    else .notOrdered "<" b.kind a.kind

/-- The kinds of marks in their order, separated by commas. -/
def kindList (marks : List Mark) : Except Fault String := do
  Value.hashableItems (marks.map Mark.kind)
  let kinds := distinct (marks.map Mark.kind)
  match kinds.mapM Value.text? with
  | some texts => return Text.join ", " (Text.sortedTexts texts)
  | none => throw (notTexts kinds)

/-- A number, right-aligned in four columns. -/
def lineLabel (n : Int) : String :=
  let digits := toString n
  String.ofList (List.replicate (4 - digits.length) ' ') ++ digits

def lineStart (marks : Option (List Mark)) : Except Fault String :=
  match marks with
  | none => return "<div class=\"doc-line\">"
  | some ms => do
    Value.hashableItems (ms.map Mark.severity)
    let kinds ← kindList ms
    return "<div class=\"doc-line threat-" ++ highest ms ++ "\" title=\"威胁: " ++ Markup.escape kinds ++ "\">"

def lineMarkup (lines : List String) (marks : LineMarks) (n : Int) : Except Fault String := do
  let content := Markup.escape ((lines[(n - 1).toNat]?).getD "")
  return (← lineStart (marks.get? n)) ++ "<span class=\"doc-line-number\">" ++ lineLabel n ++ "</span>" ++
    "<span class=\"doc-line-content\">" ++ content ++ "</span></div>"

def numbersIn (r : LineRange) : List Int := (List.range (r.2 + 1 - r.1).toNat).map fun (k : Nat) => r.1 + (k : Int)

def snippetMarkup (lines : List String) (marks : LineMarks) (number : Nat) (r : LineRange) : Except Fault String := do
  let body ← (numbersIn r).mapM (lineMarkup lines marks)
  return "<div class=\"doc-snippet\"><div class=\"doc-snippet-header\">片段 " ++ toString number ++ "：第 " ++
    toString r.1 ++ " 行 - 第 " ++ toString r.2 ++ " 行</div><div class=\"doc-code\">" ++ Text.join "" body ++
    "</div></div>"

def legend : String :=
  Text.join "\n"
    ["",
     "    <div class=\"doc-reader-legend\">",
     "        <div class=\"doc-legend-item\" style=\"background:#FFE6E6;border-color:#E74C3C;\">严重</div>",
     "        <div class=\"doc-legend-item\" style=\"background:#FFE8D6;border-color:#E67E22;\">高危</div>",
     "        <div class=\"doc-legend-item\" style=\"background:#FFF4E6;border-color:#F39C12;\">中危</div>",
     "        <div class=\"doc-legend-item\" style=\"background:#E6F7E6;border-color:#27AE60;\">低危</div>",
     "    </div>",
     "    "]

/-- The first ranges; a negative limit leaves out so many at the end. -/
def firstRanges (limit : Int) (ranges : List LineRange) : List LineRange :=
  if 0 ≤ limit then ranges.take limit.toNat else ranges.take (ranges.length - limit.natAbs)

def snippetsFrom (lines : List String) (marks : LineMarks) (n : Nat) : List LineRange → Except Fault (List String)
  | [] => return []
  | r :: rest => do
    let s ← snippetMarkup lines marks n r
    return s :: (← snippetsFrom lines marks (n + 1) rest)

def limitNote (limit : Int) (shown : Nat) : String :=
  if limit < shown then
    "<div style=\"color:#7F8C8D;font-size:12px;\">仅显示前 " ++ toString limit ++ " 个片段。</div>"
  else ""

def markup (lines : List String) (marks : LineMarks) (context limit : Int) : Except Fault String := do
  let ranges := contextRanges (marks.lines.mergeSort fun a b => decide (a ≤ b)) lines.length context
  let snippets ← snippetsFrom lines marks 1 (firstRanges limit ranges)
  return "<div class=\"doc-reader\">" ++ legend ++ Text.join "" snippets ++ limitNote limit ranges.length ++ "</div>"

def defaultContext : Int := 4

def defaultLimit : Int := 50

def read (source threats : Value) (context limit : Int) : Except Fault Reading := do
  if !source.truthy then return .notice "未找到可展示的源代码。"
  if !threats.truthy then return .notice "未检测到威胁，暂无片段可显示。"
  let lines := Text.displayLines (← source.text "splitlines")
  let marks ← LineMarks.ofThreats (← threats.items)
  if marks.isEmpty then return .notice "未检测到有效的威胁行号。"
  return .markup (← markup lines marks context limit)

end ThreatScan.Snippet
