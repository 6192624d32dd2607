import ThreatScan.Proofs.Analysis.Sandboxed
import ThreatScan.Proofs.Page.BatchDisplay
import ThreatScan.Proofs.Report.Faithful
/-!
The reports that sum up a batch.

Where the reports can be written (`CanReport`), the page on a batch ends with an offer of all three (`exists_offers`). What
they are made of has the overall risk and all threats under names of its own, and none of the names that the reports look
up (`exists_batchReportData`). So the page and the Markdown text are those of a record that reports nothing, and they are
true to the batch exactly if it has no threats: any threat scores, and a text reports one score only.
-/
namespace ThreatScan.Page

open Report (PageReports MarkdownReports Clears Silent readBack)

/-! ## Writing a report and offering it -/

def reportName (now : Instant) (ext : String) : String := "batch_analysis_" ++ now.stamp ++ ext

def offer (column label text name mime key : String) : Event :=
  .call (column ++ ".download_button") []
    [("label", .str label), ("data", .str text), ("file_name", .str name), ("mime", .str mime),
      ("key", .str (batchMark ++ "_batch_" ++ key))]

def Visit.onDisk (v : Visit) (d : Disk) : Visit := { v with host := { v.host with disk := d } }

/-- A report whose file can be written is offered as it is read back. The time stays, and so do the files that can be
written. -/
theorem exists_gives_offer {v : Visit} {dir ext : String}
    (ha : v.host.disk.Accepts (Path.join dir (reportName v.host.now ext))) (content column label mime key : String) :
    ∃ v', Gives (offerBatchReport dir content ext column label mime key) v () v' ∧
      v'.events = v.events ++ [offer column label (readBack content) (reportName v.host.now ext) mime key] ∧
      v'.host.now = v.host.now ∧ ∀ other, v.host.disk.Accepts other → v'.host.disk.Accepts other := by
  obtain ⟨d, hw⟩ := ha.exists_write (.text content)
  have hwrite : Act.Gives (Host.writeText (Path.join dir (reportName v.host.now ext)) content) v.host ()
      { v.host with disk := d } := Act.gives_onDisk.mpr ⟨d, hw, rfl⟩
  have hread : Act.Gives (Host.readText (Path.join dir (reportName v.host.now ext))) { v.host with disk := d }
      (readBack content) { v.host with disk := d } := by
    refine Act.gives_bind.mpr ⟨_, _, Act.gives_get.mpr ⟨rfl, rfl⟩, ?_⟩
    exact Act.gives_check.mpr ⟨Disk.readText_write hw, rfl⟩
  let event := offer column label (readBack content) (reportName v.host.now ext) mime key
  have hgives : Gives (offerBatchReport dir content ext column label mime key) v () ((v.onDisk d).adding [event]) := by
    refine gives_bind.mpr ⟨v, v, rfl, gives_bind.mpr ⟨(), v.onDisk d, gives_onHost hwrite, ?_⟩⟩
    exact gives_bind.mpr ⟨readBack content, v.onDisk d, gives_onHost (v := v.onDisk d) hread, rfl⟩
  exact ⟨_, hgives, rfl, rfl, fun other h => h.of_write hw⟩

/-! ## What the reports are made of -/

theorem exists_fileSummary (e : FileEntry) : ∃ summary, fileSummary e.toValue = .ok summary := by
  obtain ⟨path, ⟨_, _, _, _, _, _, risk, _, _, _⟩ | r | message⟩ := e
  · cases risk <;> exact ⟨_, rfl⟩
  · exact ⟨_, rfl⟩
  · exact ⟨_, rfl⟩

/-- The reports are made of a record that reports nothing: what is known of the batch stands under other names. -/
theorem exists_batchReportData (b : Batch) : ∃ fields, batchReportData b.toValue = .ok (.dict fields) ∧ Silent fields := by
  obtain ⟨files, hfiles⟩ : ∃ files, (b.entries.map FileEntry.toValue).mapM fileSummary = .ok files := by
    apply Checked.exists_mapM_eq_ok
    intro file hfile
    obtain ⟨e, -, rfl⟩ := List.mem_map.mp hfile
    exact exists_fileSummary e
  have hdata : batchReportData b.toValue = (do
      let files ← (b.entries.map FileEntry.toValue).mapM fileSummary
      return .dict [("analysis_type", .str "batch"),
        ("summary", .dict [("total_files", .int b.entries.length), ("successful", .int (Batch.successful b.entries).length),
          ("failed", .int (b.entries.length - (Batch.successful b.entries).length)),
          ("total_threats", .int (Batch.threats b.entries).length)]),
        ("overall_risk", b.overallValue), ("aggregated_threats", .list (Batch.threats b.entries)),
        ("file_results", .list files)]) := rfl
  rw [hdata, hfiles]
  refine ⟨_, rfl, ?_⟩
  -- none of the five names is one that the reports look up
  intro key hkey
  simp only [List.mem_cons, List.not_mem_nil, or_false] at hkey
  rcases hkey with rfl | rfl | rfl | rfl <;> rfl

/-! ## The offers -/

/-- The summing reports can be written: their directory can be made, and the three files can be put there. -/
structure CanReport (config : Value) (host : Host) (dir : String) (d : Disk) : Prop where
  named : ∃ settings, config.get "settings" (.dict []) = .ok settings ∧
    settings.get "report_path" (.str "data/reports/") = .ok (.str dir)
  made : host.disk.makeDirs dir = .ok d
  accepts : ∀ ext ∈ [".json", ".html", ".md"], d.Accepts (Path.join dir (reportName host.now ext))

def offers (now : Instant) (document page text : String) : List Event :=
  [offer "col1" "📄 下载 JSON 汇总报告" document (reportName now ".json") "application/json" "json",
   offer "col2" "🌐 下载 HTML 汇总报告" page (reportName now ".html") "text/html" "html",
   offer "col3" "📝 下载 Markdown 汇总报告" text (reportName now ".md") "text/markdown" "md"]

/-- The summing reports, once they can be written: what is offered is what was made of the batch. -/
theorem gives_showBatchReports {config : Value} {v : Visit} {dir : String} {d : Disk} {b : Batch} {data : Value}
    {page text : String} (hr : CanReport config v.host dir d) (hdata : batchReportData b.toValue = .ok data)
    (hpage : Report.html v.host.now data = .ok page) (htext : Report.markdown v.host.now data = .ok text) :
    ∃ v', Gives (showBatchReports b.toValue config) v () v' ∧ v'.events = v.events ++ .call "columns" [.int 3] [] ::
      offers v.host.now (readBack (Report.json v.host.now data)) (readBack page) (readBack text) := by
  obtain ⟨⟨settings, hsettings, hdir⟩, hmade, haccepts⟩ := hr
  have htruthy : b.toValue.truthy = true := rfl
  have hpath : (do path (← settings.get "report_path" (.str "data/reports/"))) = .ok dir := by
    rw [hdir]
    rfl
  have hmake : Gives (onHost (Host.makeDirs dir)) v () (v.onDisk d) :=
    gives_onHost (Act.gives_onDisk.mpr ⟨d, hmade, rfl⟩)
  -- each file can still be written after those before it
  let v₁ := (v.onDisk d).adding [.call "columns" [.int 3] []]
  obtain ⟨v₂, hjson, hevents₂, hnow₂, hkeep₂⟩ := exists_gives_offer (v := v₁) (haccepts ".json" (by simp))
    (Report.json v.host.now data) "col1" "📄 下载 JSON 汇总报告" "application/json" "json"
  have hnext : v₂.host.disk.Accepts (Path.join dir (reportName v₂.host.now ".html")) := by
    rw [hnow₂]
    exact hkeep₂ _ (haccepts ".html" (by simp))
  obtain ⟨v₃, hhtml, hevents₃, hnow₃, hkeep₃⟩ := exists_gives_offer hnext
    page "col2" "🌐 下载 HTML 汇总报告" "text/html" "html"
  have hlast : v₃.host.disk.Accepts (Path.join dir (reportName v₃.host.now ".md")) := by
    rw [hnow₃, hnow₂]
    exact hkeep₃ _ (hkeep₂ _ (haccepts ".md" (by simp)))
  obtain ⟨v₄, hmarkdown, hevents₄, -, -⟩ := exists_gives_offer hlast
    text "col3" "📝 下载 Markdown 汇总报告" "text/markdown" "md"
  refine ⟨v₄, ?_, ?_⟩
  · rw [showBatchReports, if_pos htruthy]
    refine gives_bind.mpr ⟨_, _, gives_valid hdata _, gives_bind.mpr ⟨_, _, rfl, ?_⟩⟩
    refine gives_bind.mpr ⟨_, _, gives_valid hsettings _, gives_bind.mpr ⟨_, _, gives_valid hpath _, ?_⟩⟩
    refine gives_bind.mpr ⟨(), _, hmake, gives_bind.mpr ⟨(), v₁, rfl, ?_⟩⟩
    refine gives_bind.mpr ⟨(), v₂, hjson, gives_bind.mpr ⟨_, _, gives_valid hpage _, ?_⟩⟩
    exact gives_bind.mpr ⟨(), v₃, hhtml, gives_bind.mpr ⟨_, _, gives_valid htext _, hmarkdown⟩⟩
  · have hevents₁ : v₁.events = v.events ++ [.call "columns" [.int 3] []] := rfl
    have hnow₁ : v₁.host.now = v.host.now := rfl
    rw [hevents₄, hevents₃, hevents₂, hevents₁, hnow₃, hnow₂, hnow₁]
    simp only [offers, List.append_assoc, List.cons_append, List.nil_append]

/-- Whatever the batch, the page on it ends with an offer of reports that report nothing. -/
theorem exists_offers {config : Value} {v : Visit} {dir : String} {d : Disk} (b : Batch)
    (hr : CanReport config v.host dir d) : ∃ v' more document page text,
      Gives (showBatch b.toValue config) v () v' ∧ v'.events = v.events ++ more ++ offers v.host.now document page text ∧
      PageReports (.dict []) [] page ∧ MarkdownReports v.host.now (.dict []) [] text := by
  obtain ⟨shown, hshown⟩ := leadsTo_showBatch b config v
  obtain ⟨fields, hdata, hsilent⟩ := exists_batchReportData b
  obtain ⟨page, hpage, hblank⟩ := hsilent.exists_html v.host.now
  obtain ⟨text, htext, hclear⟩ := hsilent.exists_markdown v.host.now
  obtain ⟨v', hgives, hevents⟩ := gives_showBatchReports (v := v.adding shown) hr hdata hpage htext
  refine ⟨v', shown ++ [.call "columns" [.int 3] []], readBack (Report.json v.host.now (.dict fields)), readBack page,
    readBack text, hshown.trans hgives, ?_, hblank, hclear⟩
  rw [hevents, Visit.adding]
  simp only [List.append_assoc, List.cons_append, List.nil_append]

/-! ## True to the batch -/

section Batch
variable {entries : List FileEntry} {b : Batch}

theorem score_overallValue (b : Batch) : b.overallValue.get "risk_score" (.int 0) = .ok (.int b.overall.score) := rfl

/-- A batch without threats has the overview of an assessment without fields. -/
theorem ofRisk_overallValue (hb : Batch.ofEntries entries = .ok b) (h : Batch.threats b.entries = []) :
    Report.Overview.ofRisk b.overallValue = Report.Overview.ofRisk (.dict []) := by
  obtain ⟨hk, he, -⟩ := Batch.ofEntries_eq_ok.mp hb
  rw [← he, h] at hk
  have hoverall : b.overall = Risk.ofTally .zero 0 := Except.ok.inj hk.symm
  unfold Batch.overallValue
  rw [hoverall]
  rfl

theorem score_pos (hb : Batch.ofEntries entries = .ok b) (h : Batch.threats b.entries ≠ []) : 0 < b.overall.score := by
  obtain ⟨hk, he, -⟩ := Batch.ofEntries_eq_ok.mp hb
  obtain ⟨tally, htally, hcount⟩ := Risk.count_of_assess hk
  rw [← he] at hcount
  -- one threat is enough: it is counted under its own severity
  obtain ⟨t, ht⟩ := List.exists_mem_of_ne_nil _ h
  obtain ⟨u, hu⟩ := isThreat_of_mem_threats ht
  have hstates : Tally.states u.kind.severity t = true := by
    rcases hu with rfl | ⟨file, rfl⟩
    · rw [Threat.states_toValue, beq_self_eq_true]
    · rw [Threat.states_tagged, beq_self_eq_true]
  have hpos : 0 < tally.count u.kind.severity := by
    rw [hcount, List.countP_pos_iff]
    exact ⟨t, ht, hstates⟩
  rw [htally]
  exact Risk.scoreOf_pos hpos

/-- What reports no score but zero, and reports any overview that is blank, is true to a batch exactly if the batch has no
threats. -/
theorem blank_true_iff (hb : Batch.ofEntries entries = .ok b) (Reports : Value → List Value → Prop)
    (hscore : ∀ {risk threats} {n : Nat}, Reports risk threats → risk.get "risk_score" (.int 0) = .ok (.int n) → 0 = n)
    (hblank : ∀ {risk}, Report.Overview.ofRisk risk = Report.Overview.ofRisk (.dict []) → Reports risk []) :
    Reports b.overallValue (Batch.threats b.entries) ↔ Batch.threats b.entries = [] := by
  constructor
  · intro h
    by_contra hne
    have hzero : 0 = b.overall.score := hscore h (score_overallValue b)
    have hpos := score_pos hb hne
    omega
  · intro h
    rw [h]
    exact hblank (ofRisk_overallValue hb h)

theorem pageReports_iff (hb : Batch.ofEntries entries = .ok b) {page : String} (hp : PageReports (.dict []) [] page) :
    PageReports b.overallValue (Batch.threats b.entries) page ↔ Batch.threats b.entries = [] := by
  apply blank_true_iff hb fun risk threats => PageReports risk threats page
  · intro risk threats n h hn
    exact hp.score_unique h rfl hn
  · intro risk hrisk
    unfold PageReports at hp ⊢
    rwa [hrisk]

theorem markdownReports_iff (hb : Batch.ofEntries entries = .ok b) {now : Instant} {text : String}
    (hm : MarkdownReports now (.dict []) [] text) :
    MarkdownReports now b.overallValue (Batch.threats b.entries) text ↔ Batch.threats b.entries = [] := by
  apply blank_true_iff hb fun risk threats => MarkdownReports now risk threats text
  · intro risk threats n h hn
    exact hm.score_unique h rfl hn
  · intro risk hrisk
    unfold MarkdownReports at hm ⊢
    rwa [hrisk]

theorem exists_entries {config : Option Value} {paths : List String} {h h' : Host}
    (hb : Act.Gives (Analysis.analyzeMany config paths) h b h') : ∃ entries, Batch.ofEntries entries = .ok b := by
  obtain ⟨c, h₁, -, hb⟩ := Act.gives_bind.mp hb
  obtain ⟨entries, h₂, -, hb⟩ := Act.gives_bind.mp hb
  exact ⟨entries, (Act.gives_valid.mp hb).1⟩

end Batch

/-- The page on a batch ends with an offer of its reports. The web page and the Markdown text report no risk and no threats,
whatever the batch. So they are true to the overall risk and the threats in the record of the batch exactly if there are no
threats, and the Markdown text says that there are none in any case. -/
theorem summing_reports_true_iff {config : Option Value} {paths : List String} {h h' : Host} {b : Batch}
    (hb : Act.Gives (Analysis.analyzeMany config paths) h b h') {settings : Value} {v : Visit} {dir : String} {d : Disk}
    (hr : CanReport settings v.host dir d) :
    ∃ risk threats, b.toValue.field? "overall_risk" = some risk ∧
      b.toValue.field? "aggregated_threats" = some (.list threats) ∧
      ∃ v' more document page text, Gives (showBatch b.toValue settings) v () v' ∧
        v'.events = v.events ++ more ++ offers v.host.now document page text ∧
        PageReports (.dict []) [] page ∧ (PageReports risk threats page ↔ threats = []) ∧
        MarkdownReports v.host.now (.dict []) [] text ∧ (MarkdownReports v.host.now risk threats text ↔ threats = []) ∧
        Clears text := by
  obtain ⟨entries, hentries⟩ := exists_entries hb
  obtain ⟨v', more, document, page, text, hgives, hevents, hpage, htext⟩ := exists_offers b hr
  refine ⟨b.overallValue, Batch.threats b.entries, rfl, rfl, v', more, document, page, text, hgives, hevents, hpage, ?_,
    htext, ?_, htext.clears⟩
  · exact pageReports_iff hentries hpage
  · exact markdownReports_iff hentries htext

namespace ThreatenedBatch

open Analysis UnstartedRun

theorem kinds_announced :
    (threatsOf { common with dynamic := false } "a.py" "python" (announced "a.py" (hostWith unstarted))).map Threat.kind =
      [.remoteExecution, .commandInjection] := by
  decide +kernel

theorem exists_batch : ∃ b h', Act.Gives (analyzeMany (some (settings false)) ["a.py"]) (hostWith unstarted) b h' ∧
    Batch.threats b.entries ≠ [] := by
  have hoff : Settings.ofConfig (settings false) = .ok { common with dynamic := false } := rfl
  have hl : Language.detect (announced "a.py" (hostWith unstarted)).disk "a.py" = "python" := by decide
  obtain ⟨r, h₁, hg, hr, -⟩ := exists_gives_analyzeWith hoff hl (by decide)
  obtain ⟨b, h', hb, hthreats⟩ := exists_analyzeMany_single hg
  refine ⟨b, h', hb, ?_⟩
  rw [hthreats, hr]
  intro hnone
  have hkinds := kinds_announced
  rw [List.map_eq_nil_iff.mp hnone] at hkinds
  cases hkinds

def visit : Visit where
  host := { hostWith unstarted with disk := ⟨[(Disk.workPlace ++ ["r"], .dir)]⟩ }
  session := []
  choices := .none
  charts := ⟨none, true⟩
  locked := fun _ => none
  events := []

def config : Value := .dict [("settings", .dict [("report_path", .str "r")])]

theorem canReport : CanReport config visit.host "r" visit.host.disk where
  named := ⟨_, rfl, rfl⟩
  made := rfl
  accepts := by decide

/-- The reports on a batch with threats report none of them, and say that there are none. -/
theorem threats_reported_as_none : ∃ b h' threats v' more document page text,
    Act.Gives (analyzeMany (some (settings false)) ["a.py"]) (hostWith unstarted) b h' ∧
    b.toValue.field? "aggregated_threats" = some (.list threats) ∧ threats ≠ [] ∧
    Gives (showBatch b.toValue config) visit () v' ∧
    v'.events = more ++ offers visit.host.now document page text ∧
    ¬ PageReports b.overallValue threats page ∧ ¬ MarkdownReports visit.host.now b.overallValue threats text ∧
    Clears text := by
  obtain ⟨b, h', hb, hthreats⟩ := exists_batch
  obtain ⟨entries, hentries⟩ := exists_entries hb
  obtain ⟨v', more, document, page, text, hgives, hevents, hpage, htext⟩ := exists_offers b canReport
  refine ⟨b, h', Batch.threats b.entries, v', more, document, page, text, hb, rfl, hthreats, hgives, hevents, ?_, ?_,
    htext.clears⟩
  · exact fun h => hthreats ((pageReports_iff hentries hpage).mp h)
  · exact fun h => hthreats ((markdownReports_iff hentries htext).mp h)

/-- The reports on this batch are offered, and they are true to it exactly if it has no threats. -/
theorem reports_of_threatened_batch : CanReport config visit.host "r" visit.host.disk ∧
    ∃ b h', Act.Gives (analyzeMany (some (settings false)) ["a.py"]) (hostWith unstarted) b h' ∧
      ∃ risk threats, b.toValue.field? "overall_risk" = some risk ∧
        b.toValue.field? "aggregated_threats" = some (.list threats) ∧
        ∃ v' more document page text, Gives (showBatch b.toValue config) visit () v' ∧
          v'.events = visit.events ++ more ++ offers visit.host.now document page text ∧
          PageReports (.dict []) [] page ∧ (PageReports risk threats page ↔ threats = []) ∧
          MarkdownReports visit.host.now (.dict []) [] text ∧
          (MarkdownReports visit.host.now risk threats text ↔ threats = []) ∧ Clears text := by
  obtain ⟨b, h', hb, -⟩ := exists_batch
  exact ⟨canReport, b, h', hb, summing_reports_true_iff hb canReport⟩

end ThreatenedBatch

end ThreatScan.Page
