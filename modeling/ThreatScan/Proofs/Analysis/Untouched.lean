import ThreatScan.Proofs.Analysis.Sandboxed
import ThreatScan.Proofs.Analysis.Saved
import ThreatScan.Proofs.Analysis.Skipped
/-!
What the analysis of a Python file leaves untouched.

A step that keeps to a scope does so in a whole run (`within_runSteps`). If the program is not run, the steps before the
reports only print, so an analysis of a Python file works within the scope of its reports, however it ends: every place on the
disk is as it was, unless a report of the file is there or a directory that leads to the directory of reports.
-/
namespace ThreatScan.Analysis

open Act Disk

section Runs
variable {now : Instant} {scope : Scope} {s : Settings} {path : String}

/-- Steps that keep to a scope do so one after another, as long as the steps keep what each of them needs. -/
theorem within_runSteps {P : AnalysisResult → Prop} {ss : List Step} (hw : ∀ step ∈ ss, ∀ r, P r → Within now scope (step r))
    (hP : ∀ step ∈ ss, ∀ r h r' h', P r → Gives (step r) h r' h' → P r') {r : AnalysisResult} (hr : P r) :
    Host.Within now scope (runSteps ss r) := by
  induction ss generalizing r with
  | nil => exact .pure' r
  | cons step rest ih =>
    have hrest : ∀ r', P r' → Host.Within now scope (runSteps rest r') := fun r' =>
      ih (fun t ht => hw t (List.mem_cons_of_mem step ht)) fun t ht => hP t (List.mem_cons_of_mem step ht)
    refine .bind_attempt (P := P) (hw step List.mem_cons_self r hr) (fun h r' h' => hP step List.mem_cons_self r h r' h' hr)
      hrest fun e => ?_
    exact .bind' (.print _) fun _ => .pure' _

theorem within_reportStep {files : String → Prop} (f : Format) (r : AnalysisResult)
    (hf : ∀ dir, s.reportPath = .str dir → files (reportFile dir r.path now f)) :
    Within now (reportScope s files) (f.step s r) := by
  intro h hn
  rw [after_attempt]
  rcases savesOrFails_step s f r h with ⟨e, h', hx, hn', hw⟩ | ⟨dir, text, h', hx, hdir, -, hn', -, hw⟩
  · rw [hx]
    dsimp only
    exact ⟨hn'.trans hn, worked_reports hw files⟩
  · rw [hx]
    dsimp only
    rw [hn] at hw
    refine ⟨hn'.trans hn, hw.mono ?_ (fun _ h => h) fun _ h => h⟩
    intro q (hq : q = reportFile dir r.path now f)
    rw [hq]
    exact hf dir hdir

def IsReport (s : Settings) (path : String) (now : Instant) (q : String) : Prop :=
  ∃ dir f, s.reportPath = .str dir ∧ q = reportFile dir path now f

/-- Without a run of the program, each step of an analysis of a Python file keeps to the reports. -/
theorem within_of_mem_steps (hd : s.dynamic = false) {step : Step} (hm : step ∈ steps s) {r : AnalysisResult}
    (hr : r.path = path ∧ r.language = "python") : Within now (reportScope s (IsReport s path now)) (step r) := by
  obtain ⟨hpath, hlanguage⟩ := hr
  have hreport : ∀ f : Format, Within now (reportScope s (IsReport s path now)) (f.step s r) := fun f =>
    within_reportStep f r fun dir hdir => ⟨dir, f, hdir, by rw [hpath]⟩
  simp only [steps, List.mem_cons, List.not_mem_nil, or_false] at hm
  rcases hm with rfl | rfl | rfl | rfl | rfl | rfl | rfl | rfl | rfl
  · unfold staticStep
    rw [hlanguage]
    exact .bind' (.of_onlyPrints (onlyPrints_staticResults s r.path)) fun _ => .pure' _
  · unfold dynamicStep dynamicResults
    rw [hd]
    exact .bind' (.pure' _) fun _ => .pure' _
  · exact within_computed _ _ _
  · exact within_computed _ _ _
  · exact within_computed _ _ _
  · exact hreport .json
  · exact hreport .html
  · exact hreport .markdown
  · exact .bind' (within_say _) fun _ => .pure' _

theorem within_analyzeWith {config : Value} {h : Host} (hs : Settings.ofConfig config = .ok s) (hd : s.dynamic = false)
    (hl : Language.detect h.disk path = "python") :
    ∃ r h', Gives (analyzeWith config path) h r h' ∧ Worked (reportScope s (IsReport s path h.now)) h.disk h'.disk := by
  cases hc : isEffectivelyEmpty h.disk path with
  | true => exact ⟨_, _, gives_skip config hc, .idle⟩
  | false =>
    have hb : Begins config path h s "python" := ⟨hc, hs, hl, by decide⟩
    have hrun : Host.Within h.now (reportScope s (IsReport s path h.now)) (runSteps (steps s) (.start path "python")) := by
      refine within_runSteps (P := fun r => r.path = path ∧ r.language = "python")
        (fun step hm r hr => within_of_mem_steps hd hm hr) ?_ ⟨rfl, rfl⟩
      intro step hm r h r' h' hr hg
      obtain ⟨hpath, hlanguage, -, -⟩ := frame_of_mem_steps hm hg
      exact ⟨hpath.trans hr.1, hlanguage.trans hr.2⟩
    exact ⟨_, _, gives_runSteps hb, (hrun h rfl).2⟩

end Runs

theorem bare_isPrefix (path : String) : (bare path).toList <+: path.toList := by
  rw [bare]
  split
  · exact List.prefix_rfl
  · rw [String.toList_ofList]
    exact Text.dropRight_isPrefix _ _

/-- The analysis of a Python file that is not run always comes to a result, and however it ends, every place on the disk is as
it was, with the same file and content, the same directory or nothing there. The only exceptions are the three reports on the
file, and directories that lead to the directory of reports and were not there. -/
theorem python_analysis_touches_only_reports {config : Option Value} {c : Value} {s : Settings} {h h₁ : Host} {path : String}
    (hc : Gives (configOr config) h c h₁) (hs : Settings.ofConfig c = .ok s) (hd : s.dynamic = false)
    (hl : Language.detect h.disk path = "python") :
    ∃ r h', Gives (analyze config path) h r h' ∧
      ∀ l, (∀ dir f, s.reportPath = .str dir → h'.disk.locate (reportFile dir path h.now f) ≠ .ok l) →
        h'.disk.get? l = h.disk.get? l ∨ h.disk.get? l = none ∧ h'.disk.get? l = some .dir ∧
          ∃ dir q, s.reportPath = .str dir ∧ q.toList <+: dir.toList ∧ h'.disk.locate q = .ok l := by
  cases host_of_configOr hc
  obtain ⟨r, h', hg, hw⟩ := within_analyzeWith hs hd hl
  refine ⟨r, h', gives_bind.mpr ⟨c, h, hc, hg⟩, fun l hother => ?_⟩
  rcases (hw.grown fun _ => id).places l with ⟨p, hp, hreport⟩ | hsame | ⟨hnone, hmade, q, ⟨dir, hdir, hq⟩, hlocate⟩
  · obtain ⟨dir, f, hdir, hp⟩ : IsReport s path h.now p := hp
    rw [hp] at hreport
    exact absurd hreport (hother dir f hdir)
  · exact .inl hsame
  · exact .inr ⟨hnone, hmade, dir, bare q, hdir, (bare_isPrefix q).trans hq, hlocate⟩

/-- The analysis of a file with a threat, in a directory without reports yet. -/
theorem threatened_file_untouched :
    let h := UnstartedRun.hostWith UnstartedRun.unstarted
    let config := UnstartedRun.settings false
    Gives (configOr (some config)) h config h ∧
    Settings.ofConfig config = .ok { UnstartedRun.common with dynamic := false } ∧
    Language.detect h.disk "a.py" = "python" ∧
    ∃ r h', Gives (analyze (some config) "a.py") h r h' ∧
      ∀ l, (∀ dir f, Value.str "data/reports/" = .str dir → h'.disk.locate (reportFile dir "a.py" h.now f) ≠ .ok l) →
        h'.disk.get? l = h.disk.get? l ∨ h.disk.get? l = none ∧ h'.disk.get? l = some .dir ∧
          ∃ dir q, Value.str "data/reports/" = .str dir ∧ q.toList <+: dir.toList ∧ h'.disk.locate q = .ok l := by
  have hc : Gives (configOr (some (UnstartedRun.settings false))) (UnstartedRun.hostWith UnstartedRun.unstarted)
      (UnstartedRun.settings false) (UnstartedRun.hostWith UnstartedRun.unstarted) := gives_pure.mpr ⟨rfl, rfl⟩
  have hs : Settings.ofConfig (UnstartedRun.settings false) = .ok { UnstartedRun.common with dynamic := false } := rfl
  have hl : Language.detect (UnstartedRun.hostWith UnstartedRun.unstarted).disk "a.py" = "python" := by decide
  exact ⟨hc, hs, hl, python_analysis_touches_only_reports hc hs rfl hl⟩

end ThreatScan.Analysis
