import ThreatScan.Proofs.Checked
import ThreatScan.Proofs.Text.Reading
import ThreatScan.Proofs.Text.Search
import ThreatScan.Report.Html
import ThreatScan.Report.Markdown
/-!
What a written report says.

`PageReports` and `MarkdownReports` say that a text, as it is read back from a file, reports a risk assessment and a list of
threats: the score, the level and the counts, and then one row or section for each threat in order. The reports on a record
do that for the fields `risk_assessment` and `threats` of the record (`pageReports_html`, `markdownReports_markdown`).

All pages begin the same up to the score, so a text reports one score only (`PageReports.score_unique`), and likewise in
Markdown. A record without these fields (`Silent`) gets reports that report nothing, and Markdown that reports an empty list
says that no threat was found (`MarkdownReports.clears`).
-/
namespace ThreatScan.Report

open Text (append_cons_inj joinWith_append_cons uniformLines uniformLines_append uniformLines_append_of_not_mem
  uniformLines_cons)

def readBack (text : String) : String := String.ofList (uniformLines text.toList)

/-- The text is a page with the risk at its head and a row for each threat in order. -/
def PageReports (risk : Value) (threats : List Value) (text : String) : Prop :=
  ∃ overview rows rest, Overview.ofRisk risk = .ok overview ∧ threats.mapM ThreatRow.ofThreat = .ok rows ∧
    text = readBack (Text.join "\n" (pageHead ++ overviewLines overview ++ tableHead) ++ String.join (rows.map tableRow) ++
      tableFoot ++ rest)

/-- The text is Markdown with the risk at its head and a section for each threat in order. -/
def MarkdownReports (now : Instant) (risk : Value) (threats : List Value) (text : String) : Prop :=
  ∃ file overview sections rest, '\n' ∉ String.toList file ∧ '\r' ∉ String.toList file ∧
    Overview.ofRisk risk = .ok overview ∧ threatsPart (.list threats) = .ok sections ∧
    text = readBack (markdownHead now file overview ++ sections ++ rest)

def allClear : String := "✅ **未检测到威胁！代码相对安全。**"

def Clears (text : String) : Prop := allClear.toList <:+: text.toList

/-! ## One score -/

section Score
variable {p s t : List Char} {m n : Nat}

theorem isDigit_of_mem_toString {c : Char} (h : c ∈ (toString n).toList) : c.isDigit = true := by
  rw [Nat.toString_eq_ofList_toDigits, String.toList_ofList] at h
  exact Nat.isDigit_of_mem_toDigits (by decide) (by decide) h

theorem not_mem_toString {c : Char} (hc : c.isDigit = false) : c ∉ (toString n).toList := by
  intro h
  rw [isDigit_of_mem_toString h] at hc
  cases hc

/-- A number in front of a slash is read back as it is, whatever stands before it. -/
theorem uniformLines_number : uniformLines (p ++ ((toString n).toList ++ '/' :: s)) =
    uniformLines p ++ ((toString n).toList ++ '/' :: uniformLines s) := by
  have hstart : ((toString n).toList ++ '/' :: s).head? ≠ some '\n' := by
    cases hdigits : (toString n).toList with
    | nil => simp
    | cons c rest =>
      have hc : c ≠ '\n' := by
        rintro rfl
        exact not_mem_toString (n := n) (by decide) (hdigits ▸ List.mem_cons_self)
      simpa using hc
  rw [uniformLines_append p hstart, uniformLines_append_of_not_mem (not_mem_toString (by decide)),
    uniformLines_cons (by decide)]

theorem number_unique (h : uniformLines (p ++ ((toString m).toList ++ '/' :: s)) =
    uniformLines (p ++ ((toString n).toList ++ '/' :: t))) : m = n := by
  rw [uniformLines_number, uniformLines_number] at h
  have hslash : ∀ k : Nat, '/' ∉ (toString k).toList := fun k => not_mem_toString (by decide)
  obtain ⟨hdigits, -⟩ := append_cons_inj (hslash m) (hslash n) (List.append_cancel_left h)
  have hvalue := congrArg (fun ds => Nat.ofDigitChars 10 ds 0) hdigits
  simpa [Nat.toString_eq_ofList_toDigits] using hvalue

end Score

theorem score_of_ofRisk {risk : Value} {o : Overview} {n : Nat} (h : Overview.ofRisk risk = .ok o)
    (hn : risk.get "risk_score" (.int 0) = .ok (.int n)) : o.score = toString n := by
  unfold Overview.ofRisk at h
  simp only [hn, Checked.ok_bind, Checked.bind_eq_ok, Checked.pure_eq_ok] at h
  obtain ⟨_, -, _, -, _, -, _, -, _, -, _, -, _, -, _, -, rfl⟩ := h
  simp [Value.display, Value.inner, Value.displayInt]

/-- All pages begin the same, up to the score. -/
theorem exists_page_beginning : ∃ before, ∀ (o : Overview) (body : String), ∃ after,
    (Text.join "\n" (pageHead ++ overviewLines o ++ tableHead) ++ body).toList =
      before ++ (o.score.toList ++ '/' :: after) := by
  let opening := ["<body>", "    <div class=\"container\">", "        <h1>🛡️ OSS-Guardian 安全分析报告</h1>", "        ",
    "        <div class=\"risk-score\">"]
  refine ⟨((pageHead ++ opening).map String.toList).flatMap (· ++ "\n".toList) ++ "            风险分数：".toList, ?_⟩
  intro o body
  -- the score stands in the sixth line of the body
  have hlines : pageHead ++ overviewLines o ++ tableHead =
      (pageHead ++ opening) ++ ("            风险分数：" ++ o.score ++ "/100") :: ((overviewLines o).drop 6 ++ tableHead) := rfl
  have hslash : "/100".toList = '/' :: "100".toList := by decide
  rw [hlines, Text.join, List.map_append, List.map_cons, joinWith_append_cons]
  simp only [String.toList_append, String.toList_ofList, hslash, List.append_assoc, List.cons_append]
  exact ⟨_, rfl⟩

theorem PageReports.score_unique {risk risk' : Value} {threats threats' : List Value} {text : String} {m n : Nat}
    (h : PageReports risk threats text) (h' : PageReports risk' threats' text)
    (hm : risk.get "risk_score" (.int 0) = .ok (.int m)) (hn : risk'.get "risk_score" (.int 0) = .ok (.int n)) : m = n := by
  obtain ⟨before, hbefore⟩ := exists_page_beginning
  obtain ⟨o, rows, rest, ho, -, rfl⟩ := h
  obtain ⟨o', rows', rest', ho', -, htext⟩ := h'
  have hsame := String.ofList_inj.mp htext
  simp only [String.append_assoc] at hsame
  obtain ⟨after, hafter⟩ := hbefore o (String.join (rows.map tableRow) ++ (tableFoot ++ rest))
  obtain ⟨after', hafter'⟩ := hbefore o' (String.join (rows'.map tableRow) ++ (tableFoot ++ rest'))
  rw [hafter, hafter', score_of_ofRisk ho hm, score_of_ofRisk ho' hn] at hsame
  exact number_unique hsame

theorem block_append (xs ys : List String) : block (xs ++ ys) = block xs ++ block ys := by
  rw [block, List.map_append, String.join_append, block, block]

theorem block_cons (x : String) (xs : List String) : block (x :: xs) = x ++ "\n" ++ block xs := by
  rw [block, List.map_cons, String.join_cons, block]

/-- All Markdown texts of a time begin the same up to the score, but for the line that names the file. -/
theorem exists_markdown_beginning (now : Instant) : ∃ before between, ∀ (file : String) (o : Overview) (body : String),
    ∃ after, (markdownHead now file o ++ body).toList =
      before ++ (' ' :: (file.toList ++ '\n' :: (between ++ (o.score.toList ++ '/' :: after)))) := by
  let titles := ["# 🛡️ OSS-Guardian 安全分析报告", "", "## 报告信息", ""]
  let middle := ["- **生成时间：** " ++ now.reportText, "- **工具版本：** OSS-Guardian v1.0", "", "---", "",
    "## 📊 风险评估概览", "", "### 风险分数", ""]
  refine ⟨(block titles ++ "- **分析文件：**").toList, (block middle ++ "**").toList, ?_⟩
  intro file o body
  obtain ⟨closing, hlines⟩ : ∃ closing, markdownHead now file o = block (titles ++ ("- **分析文件：** " ++ file) ::
      (middle ++ ("**" ++ o.score ++ "/100** - 风险等级：**" ++ o.level ++ "**") :: closing)) := ⟨_, rfl⟩
  have hblank : "- **分析文件：** ".toList = "- **分析文件：**".toList ++ [' '] := by decide
  have hslash : "/100** - 风险等级：**".toList = '/' :: "100** - 风险等级：**".toList := by decide
  have hend : "\n".toList = ['\n'] := by decide
  rw [hlines]
  simp only [block_append, block_cons, String.toList_append, hblank, hslash, hend, List.append_assoc, List.cons_append,
    List.nil_append]
  exact ⟨_, rfl⟩

theorem MarkdownReports.score_unique {now : Instant} {risk risk' : Value} {threats threats' : List Value} {text : String}
    {m n : Nat} (h : MarkdownReports now risk threats text) (h' : MarkdownReports now risk' threats' text)
    (hm : risk.get "risk_score" (.int 0) = .ok (.int m)) (hn : risk'.get "risk_score" (.int 0) = .ok (.int n)) : m = n := by
  obtain ⟨before, between, hbefore⟩ := exists_markdown_beginning now
  obtain ⟨file, o, sections, rest, hline, hreturn, ho, -, rfl⟩ := h
  obtain ⟨file', o', sections', rest', hline', hreturn', ho', -, htext⟩ := h'
  have hsame := String.ofList_inj.mp htext
  simp only [String.append_assoc] at hsame
  obtain ⟨after, hafter⟩ := hbefore file o (sections ++ rest)
  obtain ⟨after', hafter'⟩ := hbefore file' o' (sections' ++ rest')
  rw [hafter, hafter', score_of_ofRisk ho hm, score_of_ofRisk ho' hn] at hsame
  -- the first line end after the common beginning ends the name of the file on both sides
  have hfile : ∀ {name rest : List Char}, '\r' ∉ name →
      uniformLines (before ++ ' ' :: (name ++ '\n' :: rest)) = uniformLines before ++ ' ' :: (name ++ '\n' :: uniformLines rest) := by
    intro name rest hname
    rw [uniformLines_append before (by simp), uniformLines_cons (by decide), uniformLines_append_of_not_mem hname,
      uniformLines_cons (by decide)]
  rw [hfile hreturn, hfile hreturn'] at hsame
  obtain ⟨-, hscore⟩ := append_cons_inj hline hline' (List.cons.inj (List.append_cancel_left hsame)).2
  exact number_unique hscore

/-! ## Reports on a record -/

section Record
variable {now : Instant} {results risk : Value} {threats : List Value}

theorem pageReports_html {page : String} (h : html now results = .ok page)
    (ht : results.get "threats" (.list []) = .ok (.list threats))
    (hr : results.get "risk_assessment" (.dict []) = .ok risk) : PageReports risk threats (readBack page) := by
  simp only [html, ht, hr, Checked.ok_bind, Checked.bind_eq_ok, Checked.pure_eq_ok] at h
  obtain ⟨_, -, _, -, _, -, o, ho, listed, hlisted, rows, hrows, blocks, -, rfl⟩ := h
  cases hlisted
  exact ⟨o, rows, String.join blocks ++ pageFoot now, ho, hrows, by simp only [String.append_assoc]⟩

theorem markdownReports_markdown {text file : String} (h : markdown now results = .ok text)
    (hf : results.get "file_path" (.str "未知文件") = .ok (.str file)) (hn : '\n' ∉ file.toList) (hc : '\r' ∉ file.toList)
    (ht : results.get "threats" (.list []) = .ok (.list threats))
    (hr : results.get "risk_assessment" (.dict []) = .ok risk) : MarkdownReports now risk threats (readBack text) := by
  simp only [markdown, hf, ht, hr, Checked.ok_bind, Checked.bind_eq_ok, Checked.pure_eq_ok] at h
  obtain ⟨_, -, o, ho, sections, hsections, _, -, static, -, _, -, dynamic, -, rfl⟩ := h
  refine ⟨file, o, sections, static ++ dynamic ++ markdownFoot now, hn, hc, ho, hsections, ?_⟩
  simp only [String.append_assoc, Value.display]

end Record

/-- Markdown that reports an empty list of threats says that none was found. -/
theorem MarkdownReports.clears {now : Instant} {risk : Value} {text : String} (h : MarkdownReports now risk [] text) :
    Clears text := by
  obtain ⟨file, o, sections, rest, -, -, -, hsections, rfl⟩ := h
  have hnotice : sections.toList = allClear.toList ++ ['\n', '\n'] := by
    rw [← Except.ok.inj hsections]
    decide
  have hstart : (allClear.toList ++ (['\n', '\n'] ++ rest.toList)).head? ≠ some '\n' := by
    have hfirst : allClear.toList.head? = some '✅' := by decide
    rw [List.head?_append, hfirst]
    simp
  have hreturn : '\r' ∉ allClear.toList := by decide
  rw [Clears, readBack, String.toList_ofList, String.toList_append, String.toList_append, hnotice, List.append_assoc,
    List.append_assoc, uniformLines_append _ hstart, uniformLines_append_of_not_mem hreturn, ← List.append_assoc]
  exact List.infix_append _ _ _

/-! ## Blank reports -/

def Silent (fields : List (String × Value)) : Prop :=
  ∀ key ∈ ["file_path", "threats", "risk_assessment", "aggregated_results"], Value.fieldOf? key fields = none

section Silent
variable {fields : List (String × Value)}

theorem Silent.get_eq (h : Silent fields) (key : String)
    (hkey : key ∈ ["file_path", "threats", "risk_assessment", "aggregated_results"]) (default : Value) :
    (Value.dict fields).get key default = .ok default := by
  rw [Value.get, h key hkey]
  rfl

/-- The page on a silent record can be written, and it reports that there is nothing. -/
theorem Silent.exists_html (h : Silent fields) (now : Instant) :
    ∃ page, html now (.dict fields) = .ok page ∧ PageReports (.dict []) [] (readBack page) := by
  have hthreats := h.get_eq "threats" (by simp) (.list [])
  have hrisk := h.get_eq "risk_assessment" (by simp) (.dict [])
  obtain ⟨page, hpage⟩ : ∃ page, html now (.dict fields) = .ok page := by
    simp only [html, hthreats, hrisk, h.get_eq "aggregated_results" (by simp), Checked.ok_bind]
    exact ⟨_, rfl⟩
  exact ⟨page, hpage, pageReports_html hpage hthreats hrisk⟩

/-- The Markdown text on a silent record can be written, and it reports that there is nothing. -/
theorem Silent.exists_markdown (h : Silent fields) (now : Instant) :
    ∃ text, markdown now (.dict fields) = .ok text ∧ MarkdownReports now (.dict []) [] (readBack text) := by
  have hfile := h.get_eq "file_path" (by simp) (.str "未知文件")
  have hthreats := h.get_eq "threats" (by simp) (.list [])
  have hrisk := h.get_eq "risk_assessment" (by simp) (.dict [])
  obtain ⟨text, htext⟩ : ∃ text, markdown now (.dict fields) = .ok text := by
    simp only [markdown, hfile, hthreats, hrisk, h.get_eq "aggregated_results" (by simp), Checked.ok_bind]
    exact ⟨_, rfl⟩
  exact ⟨text, htext, markdownReports_markdown htext hfile (by decide) (by decide) hthreats hrisk⟩

end Silent

end ThreatScan.Report
