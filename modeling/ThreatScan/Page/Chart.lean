import ThreatScan.Page.Basic
/-!
The chart of the severities of threats.

It is a pie; if that cannot be drawn a ring is shown in its place, and if that fails too the bare numbers. It counts how often
each value of a field occurs in a list of records.
-/
namespace ThreatScan.Page

/-- Values and how often they occur, in the order in which they first appear. -/
abbrev Counts := List (Value × Nat)

namespace Counts

def add (v : Value) : Counts → Counts
  | [] => [(v, 1)]
  | (w, n) :: rest => if w.same v then (w, n + 1) :: rest else (w, n) :: add v rest

/-- The values of a field; a record that lacks it counts for the default. -/
def ofField (key : String) (default : Value) (records : List Value) : Except Fault Counts :=
  records.foldlM (fun counts r => do
    let v ← r.get key default
    v.hashable
    return counts.add v) []

end Counts

def chartLabel (severity : Value) : String :=
  match severity with
  | .str "critical" => "严重"
  | .str "high" => "高危"
  | .str "medium" => "中危"
  | .str "low" => "低危"
  | _ => "未知"

def chartColors : List (String × String) :=
  [("严重", "#E74C3C"), ("高危", "#E67E22"), ("中危", "#F1C40F"), ("低危", "#27AE60"), ("未知", "#7F8C8D")]

def chartStyle : String :=
  Text.join "\n"
    ["",
     "        <style>",
     "        .threat-pie-title \x7b",
     "            color: #2C3E50;",
     "            font-weight: 700;",
     "            margin: 0;",
     "            font-size: 18px;",
     "            letter-spacing: 0.2px;",
     "        \x7d",
     "        /* 通过 marker 选择相邻组件，让标题 + 图表看起来是同一个面板 */",
     "        div[data-testid=\"stElementContainer\"]:has(#threat-pie-marker) + div[data-testid=\"stElementContainer\"],",
     "        div[data-testid=\"stElementContainer\"]:has(#threat-pie-marker) + div[data-testid=\"stElementContainer\"] + div[data-testid=\"stElementContainer\"] \x7b",
     "            background: linear-gradient(135deg, #FFFFFF 0%, #F8FBFC 100%);",
     "            border: 1px solid rgba(184,212,227,0.9);",
     "            box-shadow: 0 6px 16px rgba(44,62,80,0.08);",
     "        \x7d",
     "        div[data-testid=\"stElementContainer\"]:has(#threat-pie-marker) + div[data-testid=\"stElementContainer\"] \x7b",
     "            border-bottom: none;",
     "            border-radius: 14px 14px 0 0;",
     "            padding: 12px 16px 6px;",
     "        \x7d",
     "        div[data-testid=\"stElementContainer\"]:has(#threat-pie-marker) + div[data-testid=\"stElementContainer\"] + div[data-testid=\"stElementContainer\"] \x7b",
     "            border-top: none;",
     "            border-radius: 0 0 14px 14px;",
     "            padding: 0 10px 12px;",
     "        \x7d",
     "        </style>",
     "        "]

structure ChartData where
  labels : List String
  numbers : List Nat

def ChartData.ofCounts (counts : Counts) : ChartData :=
  ⟨counts.map fun c => chartLabel c.1, counts.map Prod.snd⟩

namespace ChartData

def labelValues (d : ChartData) : Value := .list (d.labels.map Value.str)

def numberValues (d : ChartData) : Value := .list (d.numbers.map fun (n : Nat) => .int n)

def hundredths (n : Nat) : Binary64 := .ofDecimal false n (-2)

/-- How far each slice stands out, a hundredth more than the one before it. -/
def pulls (d : ChartData) : List Binary64 :=
  (List.range d.labels.length).map fun i => (hundredths 2).plus ((hundredths 1).timesNat i)

def figure (parts : List (String × List (String × Value))) : Value :=
  .dict [("figure", .list (parts.map fun p => .list [.str p.1, .dict p.2]))]

def pie (d : ChartData) : Value :=
  figure
    [("pie",
      [("names", d.labelValues), ("values", d.numberValues), ("color", d.labelValues),
       ("color_discrete_map", .dict (chartColors.map fun c => (c.1, .str c.2))), ("hole", .float (hundredths 20))]),
     ("update_traces",
      [("pull", .list (d.pulls.map Value.float)),
       ("marker", .dict [("line", .dict [("color", .str "#FFFFFF"), ("width", .int 2)])]),
       ("opacity", .float (hundredths 95)),
       ("hovertemplate", .str "%\x7blabel\x7d: %\x7bvalue\x7d 个 (%\x7bpercent\x7d)")]),
     ("update_layout",
      [("legend_title", .str "威胁等级"),
       ("legend", .dict [("orientation", .str "h"), ("y", .float (.ofDecimal true 2 (-1))), ("x", .int 0)]),
       ("margin", .dict [("t", .int 10), ("b", .int 60), ("l", .int 10), ("r", .int 10)]),
       ("paper_bgcolor", .str "rgba(0,0,0,0)"),
       ("plot_bgcolor", .str "rgba(0,0,0,0)"),
       ("font", .dict [("color", .str "#2C3E50"), ("size", .int 12)])])]

def ring (d : ChartData) : Value :=
  figure
    [("Chart", [("等级", d.labelValues), ("数量", d.numberValues)]),
     ("mark_arc", [("innerRadius", .int 30)]),
     ("encode",
      [("theta", .str "数量"),
       ("color", .dict
         [("field", .str "等级"),
          ("scale", .dict
            [("domain", .list (chartColors.map fun c => .str c.1)), ("range", .list (chartColors.map fun c => .str c.2))])]),
       ("tooltip", .list [.str "等级", .str "数量"])]),
     ("properties", [("title", .str "威胁分布")])]

/-- The bare numbers by label; of a label that comes twice the later number. -/
def plain (d : ChartData) : Value :=
  .dict ((d.labels.zip d.numbers).foldl (fun fields c => Value.setField c.1 (.int c.2) fields) [])

end ChartData

def drawChart (d : ChartData) : Page Unit := do
  let charts := (← get).charts
  match charts.pieProblem with
  | none =>
    call "plotly_chart" [d.pie]
      [("use_container_width", .bool true), ("config", .dict [("displaylogo", .bool false)])]
  | some problem =>
    say "warning" ("Plotly 未安装或渲染失败，改用备用图表。错误：" ++ problem)
    if charts.ring then call "altair_chart" [d.ring] [("use_container_width", .bool true)]
    else call "write" [.str "威胁分布：", d.plain] []

def showChart (threats : Value) : Page Unit := do
  if threats.truthy then
    let data := ChartData.ofCounts (← valid (do Counts.ofField "severity" (.str "unknown") (← threats.items)))
    html chartStyle
    html "<div id=\"threat-pie-marker\"></div>"
    html "<div class=\"threat-pie-title\">威胁分布</div>"
    drawChart data

end ThreatScan.Page
