import ThreatScan.Proofs.Analysis.BatchRisk
import ThreatScan.Proofs.Analysis.Saved
/-!
What the analysis of a file leaves on the disk.

The files that an analysis works on with its tools (`ToolFile`) and the reports that it notes are all that it writes or removes
(`Leaves.worked`), and a report that it has noted is at its path at the end, with the text of that report on the final
result (`Leaves.reports`). This holds whether the analysis comes to its end, breaks off or never begins (`leaves_analyzeWith`),
provided that the path of the reports never goes up.

The invariant is carried through the steps. Up to the assessment of the risk no report is noted; after it the data of the
reports stay the same, so that a report that is written twice is written with the same text.
-/
namespace ThreatScan.Analysis

open Act Disk

/-! ## Invariants of results and hosts -/

section Carry
variable {I : AnalysisResult → Host → Prop} {ss : List Step} {r r' : AnalysisResult} {h h' : Host} {e : Failure}

/-- The step keeps the invariant; if it fails, the result is still the one before it. -/
def Carries (I : AnalysisResult → Host → Prop) (step : Step) : Prop :=
  ∀ r h, I r h → (∀ r' h', Gives (step r) h r' h' → I r' h') ∧ ∀ e h', Fails (step r) h e h' → I r h'

theorem Passes.carries (hp : Passes ss r h r' h') (hs : ∀ step ∈ ss, Carries I step) (hI : I r h) : I r' h' := by
  induction hp with
  | nil => exact hI
  | @cons step rest r r₁ _ h h₁ _ hg _ ih =>
    exact ih (fun t ht => hs t (List.mem_cons_of_mem step ht)) ((hs step List.mem_cons_self r h hI).1 r₁ h₁ hg)

theorem Breaks.carries (hb : Breaks ss r h r' e h') (hs : ∀ step ∈ ss, Carries I step) (hI : I r h) : I r' h' := by
  induction hb with
  | @here step rest r h h₁ e hf => exact (hs step List.mem_cons_self r h hI).2 e h₁ hf
  | @later step rest r r₁ _ h h₁ _ _ hg _ ih =>
    exact ih (fun t ht => hs t (List.mem_cons_of_mem step ht)) ((hs step List.mem_cons_self r h hI).1 r₁ h₁ hg)

end Carry

/-! ## The files of the tools -/

/-- A file that a tool may write or remove in the analysis of a file. -/
inductive ToolFile (now : Instant) (path : String) : String → Prop
  | copy (dir : String) : ToolFile now path (Path.join dir (Path.baseName path))
  | classFile : ToolFile now path (Host.classFile path)
  | log : ToolFile now path (Sandbox.defaultLog now)
  | script (name : String) : ToolFile now path (Path.temp ++ "/hook_runner_" ++ name ++ ".py")

/-- The scope of an analysis: the files of the tools and further ones, and all directories. -/
def workScope (now : Instant) (path : String) (more : String → Prop) : Scope where
  files := fun q => ToolFile now path q ∨ more q
  made := fun _ => True
  dropped := fun _ => True

theorem tools_workScope (now : Instant) (path : String) (more : String → Prop) : Tools now path (workScope now path more) where
  made _ := trivial
  dropped _ := trivial
  copy dir := .inl (.copy dir)
  classFile := .inl .classFile
  log := .inl .log
  script name := .inl (.script name)

section Results
variable {now : Instant} {path : String} {scope : Scope} (ht : Tools now path scope) (s : Settings)
include ht

theorem within_staticResults (language : String) : Within now scope (staticResults s path language) := by
  have hprepare : Within now scope (prepare path language) := by
    refine .bind' (within_say _) fun _ => .bind' (within_say _) fun _ => .bind_get fun _ _ => .bind' (.check _ _) fun source => ?_
    split
    · refine .bind' (within_say _) fun _ => .bind_get fun _ _ => .bind_get fun _ _ => .bind' (.check _ _) fun _ => ?_
      exact .bind' (within_say _) fun _ => .bind' (within_say _) fun _ => .pure' _
    all_goals
      refine .bind' (within_say _) fun _ => .bind_get fun _ _ => .bind' (.check _ _) fun _ => ?_
      exact .bind' (.valid _) fun _ => .bind' (.valid _) fun _ => .pure' _
  have hmatches : ∀ source rules, Within now scope (ruleMatches source rules) := fun _ _ =>
    .bind' (.valid _) fun _ => .pure' _
  have hdependencies : ∀ language, Within now scope (dependencyResults path language) := fun _ =>
    .bind_get fun _ _ => .bind' (.valid _) fun _ => .pure' _
  have hother : ∀ language check words p, Host.Within now scope check →
      Within now scope (otherResults s path language check words p) := by
    intro language check words p hcheck
    refine .bind' (.always hcheck) fun _ => .bind' (.valid _) fun _ => .bind' (hmatches _ _) fun _ => ?_
    exact .bind_get fun _ _ => .bind' (hdependencies _) fun _ => .pure' _
  refine .bind' hprepare fun p => ?_
  split
  · exact .pure' _
  · refine .bind' (within_say _) fun _ => ?_
    split
    · refine .bind_get fun _ _ => .bind_get fun _ _ => .bind' (hmatches _ _) fun _ => ?_
      exact .bind' (hdependencies _) fun _ => .pure' _
    · exact hother _ _ _ p ht.checkGo
    · exact hother _ _ _ p ht.checkJava

theorem within_dynamicResults (language : String) : Within now scope (dynamicResults s path language) := by
  unfold dynamicResults
  split
  · exact .pure' _
  · split
    · exact .bind' (within_say _) fun _ => .pure' _
    · refine .bind' (within_say _) fun _ => ?_
      split
      · refine .bind' (ht.run path [] s.timeout) fun _ => .bind_get fun _ _ => .bind' (.valid _) fun _ => ?_
        exact .bind' (.valid _) fun _ => .bind' (ht.fuzz path 3 _) fun _ => .pure' _
      · exact .pure' _

end Results

/-! ## What is left -/

/-- What an analysis of the file has left on the disk, which was `d` at its beginning. -/
structure Leaves (s : Settings) (path : String) (now : Instant) (d : Disk) (r : AnalysisResult) (h : Host) : Prop where
  path_eq : r.path = path
  now_eq : h.now = now
  reports : ∀ name p, (name, p) ∈ r.reports → ∃ dir f text, s.reportPath = .str dir ∧ name = f.name ∧
    p = reportFile dir path now f ∧ f.text now (reportData r) = .ok text ∧ h.disk.read p = .ok (.text text)
  worked : Worked (workScope now path fun p => ∃ name, (name, p) ∈ r.reports) d h.disk

section Leaves
variable {s : Settings} {path : String} {now : Instant} {d : Disk}

def LeavesNone (s : Settings) (path : String) (now : Instant) (d : Disk) (r : AnalysisResult) (h : Host) : Prop :=
  r.reports = [] ∧ Leaves s path now d r h

theorem leavesNone_of_worked {r : AnalysisResult} {h : Host} (hr : r.reports = []) (hp : r.path = path) (hn : h.now = now)
    (hw : Worked (workScope now path fun _ => False) d h.disk) : LeavesNone s path now d r h := by
  refine ⟨hr, hp, hn, ?_, hw.mono ?_ (fun _ h => h) fun _ h => h⟩
  · rw [hr]
    simp
  · rintro q (hq | hq)
    · exact .inl hq
    · exact hq.elim

theorem carries_of_within {step : Step} (hw : ∀ r, r.path = path → Within now (workScope now path fun _ => False) (step r))
    (hg : ∀ r h r' h', Gives (step r) h r' h' → r'.path = r.path ∧ r'.reports = r.reports) :
    Carries (LeavesNone s path now d) step := by
  rintro r h ⟨hr, hleaves⟩
  have hbefore : Worked (workScope now path fun _ => False) d h.disk := by
    refine hleaves.worked.mono ?_ (fun _ h => h) fun _ h => h
    rintro q (hq | ⟨name, hq⟩)
    · exact .inl hq
    · rw [hr] at hq
      cases hq
  have hrun : ((step r).outcome h).2.now = now ∧ Worked (workScope now path fun _ => False) h.disk ((step r).outcome h).2.disk :=
    hw r hleaves.path_eq h hleaves.now_eq
  constructor
  · intro r' h' hgives
    obtain ⟨hpath, hreports⟩ := hg r h r' h' hgives
    rw [hgives] at hrun
    exact leavesNone_of_worked (hreports.trans hr) (hpath.trans hleaves.path_eq) hrun.1 (hbefore.andThen hrun.2)
  · intro e h' hfails
    rw [hfails] at hrun
    exact leavesNone_of_worked hr hleaves.path_eq hrun.1 (hbefore.andThen hrun.2)

theorem carries_before {step : Step} (hm : step ∈ stepsBeforeRisk s ++ [riskStep]) :
    Carries (LeavesNone s path now d) step := by
  refine carries_of_within ?_ fun r h r' h' hg => ?_
  · rintro r rfl
    have ht := tools_workScope now r.path fun _ => False
    simp only [stepsBeforeRisk, List.cons_append, List.nil_append, List.mem_cons, List.not_mem_nil, or_false] at hm
    rcases hm with rfl | rfl | rfl | rfl | rfl
    · exact .bind' (within_staticResults ht s r.language) fun _ => .pure' _
    · exact .bind' (within_dynamicResults ht s r.language) fun _ => .pure' _
    · exact within_computed _ _ _
    · exact within_computed _ _ _
    · exact within_computed _ _ _
  · rcases List.mem_append.mp hm with hm | hm
    · obtain ⟨_, _, _, _, rfl⟩ := adds_before_risk hm hg
      exact ⟨rfl, rfl⟩
    · cases List.mem_singleton.mp hm
      obtain ⟨k, -, rfl⟩ := adds_riskStep hg
      exact ⟨rfl, rfl⟩

/-- Saving a report spares every report of the file in another format, and without a report all of them. -/
theorem spares_report {dir : String} {files : String → Prop} {g : Format} {d d' : Disk} {c : Content}
    (hw : Worked (reportScope s files) d d')
    (hf : ∀ q, files q → Path.baseName q ≠ reportName path now g) (hr : d.read (reportFile dir path now g) = .ok c) :
    d'.read (reportFile dir path now g) = .ok c := by
  refine hw.spares (fun q hq => ?_) (fun _ => False.elim) hr
  rw [baseName_reportFile]
  exact hf q hq

theorem worked_of_reports {files more : String → Prop} {d d' : Disk} (hw : Worked (reportScope s files) d d')
    (hf : ∀ q, files q → more q) : Worked (workScope now path more) d d' :=
  hw.mono (fun q hq => .inr (hf q hq)) (fun _ _ => trivial) fun _ _ => trivial

/-- A step that saves a report. The reports noted before it have other names, or they are the same report once more. -/
theorem carries_reportStep (f : Format) : Carries (Leaves s path now d) (f.step s) := by
  intro r h hleaves
  obtain ⟨hpath, hnow, hreports, hworked⟩ := hleaves
  rcases savesOrFails_step s f r h with ⟨e, h', hfails, hn, hw⟩ | ⟨dir, text, h', hgives, hdir, htext, hn, hread, hw⟩
  · refine ⟨fun r' h'' hg => absurd hfails hg.not_fails, fun e' h'' hf => ?_⟩
    rw [← (Prod.mk.inj (hfails.symm.trans hf)).2]
    refine ⟨hpath, hn.trans hnow, fun name p hp => ?_, hworked.andThen (worked_of_reports hw fun _ => False.elim)⟩
    obtain ⟨dir, g, text, hdir, hname, hp, htext, hread⟩ := hreports name p hp
    rw [hp] at hread ⊢
    have hread' := spares_report hw (fun _ => False.elim) hread
    exact ⟨dir, g, text, hdir, hname, rfl, htext, hread'⟩
  · refine ⟨fun r' h'' hg => ?_, fun e' h'' hf => absurd hf hgives.not_fails⟩
    obtain ⟨hr', hh'⟩ := Prod.mk.inj (hgives.symm.trans hg)
    rw [← hh', ← Except.ok.inj hr']
    rw [hpath, hnow] at hread hw
    rw [hnow] at htext
    have hnoted : (noted r dir h.now f).reports = r.reports ++ [(f.name, reportFile dir path now f)] := by
      rw [noted, hpath, hnow]
    refine ⟨hpath, hn.trans hnow, fun name p hp => ?_, ?_⟩
    · rw [hnoted, List.mem_append, List.mem_singleton] at hp
      rcases hp with hp | hp
      · obtain ⟨dir', g, text', hdir', hname, hp, htext', hread'⟩ := hreports name p hp
        obtain rfl : dir' = dir := Value.str.inj (hdir'.symm.trans hdir)
        rw [hp] at hread' ⊢
        by_cases hfg : g = f
        · subst hfg
          exact ⟨dir', g, text, hdir, hname, rfl, htext, hread⟩
        · have hother : ∀ q, q = reportFile dir' path now f → Path.baseName q ≠ reportName path now g := by
            intro q hq
            rw [hq, baseName_reportFile]
            exact fun h => hfg (reportName_inj.mp h).1.symm
          exact ⟨dir', g, text', hdir, hname, rfl, htext', spares_report hw hother hread'⟩
      · obtain ⟨hname, hp⟩ := Prod.mk.inj hp
        rw [hp]
        exact ⟨dir, f, text, hdir, hname, rfl, htext, hread⟩
    · have hnew : ∀ q, q = reportFile dir path now f → ∃ name, (name, q) ∈ (noted r dir h.now f).reports := by
        intro q hq
        rw [hnoted, hq]
        exact ⟨f.name, List.mem_append_right _ List.mem_cons_self⟩
      refine Worked.andThen ?_ (worked_of_reports hw hnew)
      refine hworked.mono ?_ (fun _ h => h) fun _ h => h
      rintro q (hq | ⟨name, hq⟩)
      · exact .inl hq
      · refine .inr ⟨name, ?_⟩
        rw [hnoted]
        exact List.mem_append_left _ hq

theorem carries_finalStep : Carries (Leaves s path now d) finalStep := by
  intro r h hleaves
  have hgives : Gives (finalStep r) h r _ := gives_bind.mpr ⟨(), _, gives_say, gives_pure.mpr ⟨rfl, rfl⟩⟩
  refine ⟨fun r' h'' hg => ?_, fun e h'' hf => absurd hf hgives.not_fails⟩
  obtain ⟨hr, hh⟩ := Prod.mk.inj (hgives.symm.trans hg)
  rw [← hh, ← Except.ok.inj hr]
  exact ⟨hleaves.path_eq, hleaves.now_eq, hleaves.reports, hleaves.worked⟩

theorem Leaves.ended {r : AnalysisResult} {h : Host} (hl : Leaves s path now d r h) (ending : Ending) (printed : String) :
    Leaves s path now d { r with ending } { h with printed } :=
  ⟨hl.path_eq, hl.now_eq, hl.reports, hl.worked⟩

/-- A result that notes any report notes the JSON document. -/
def NotesDocument (r : AnalysisResult) : Prop := r.reports ≠ [] → ∃ p, (Format.json.name, p) ∈ r.reports

/-- The document is saved before the other reports, and no step takes a report back. -/
theorem notes_of_mem {step : Step} (hm : step ∈ [pageStep s, markdownStep s, finalStep]) {r r' : AnalysisResult} {h h' : Host}
    (hr : ∃ p, (Format.json.name, p) ∈ r.reports) (hg : Gives (step r) h r' h') : ∃ p, (Format.json.name, p) ∈ r'.reports := by
  obtain ⟨p, hp⟩ := hr
  simp only [List.mem_cons, List.not_mem_nil, or_false] at hm
  rcases hm with rfl | rfl | rfl
  · obtain ⟨q, rfl⟩ := adds_pageStep hg
    exact ⟨p, List.mem_append_left _ hp⟩
  · obtain ⟨q, rfl⟩ := adds_markdownStep hg
    exact ⟨p, List.mem_append_left _ hp⟩
  · rw [adds_finalStep hg]
    exact ⟨p, hp⟩

theorem notes_of_documentStep {r r' : AnalysisResult} {h h' : Host} (hg : Gives (documentStep s r) h r' h') :
    ∃ p, (Format.json.name, p) ∈ r'.reports := by
  obtain ⟨p, rfl⟩ := adds_documentStep hg
  exact ⟨p, List.mem_append_right _ List.mem_cons_self⟩

theorem steps_eq_reports (s : Settings) :
    steps s = (stepsBeforeRisk s ++ [riskStep]) ++ documentStep s :: [pageStep s, markdownStep s, finalStep] := rfl

section Steps
variable {r : AnalysisResult} {h h' : Host} {language : String}

theorem carries_reports {step : Step} (hm : step ∈ documentStep s :: [pageStep s, markdownStep s, finalStep]) :
    Carries (Leaves s path now d) step := by
  simp only [List.mem_cons, List.not_mem_nil, or_false] at hm
  rcases hm with rfl | rfl | rfl | rfl
  · exact carries_reportStep .json
  · exact carries_reportStep .html
  · exact carries_reportStep .markdown
  · exact carries_finalStep

theorem leaves_of_passes (hp : Passes (steps s) (.start path language) h r h') :
    Leaves s path h.now h.disk r h' ∧ ∃ p, (Format.json.name, p) ∈ r.reports := by
  have hstart : LeavesNone s path h.now h.disk (.start path language) h := leavesNone_of_worked rfl rfl rfl .idle
  rw [steps_eq_reports] at hp
  obtain ⟨r₁, h₁, hbefore, hafter⟩ := hp.split
  have hnone := hbefore.carries (fun _ => carries_before) hstart
  refine ⟨hafter.carries (fun _ => carries_reports) hnone.2, ?_⟩
  cases hafter with
  | cons hg hrest => exact hrest.invariant (fun _ hm _ _ _ _ hr hg => notes_of_mem hm hr hg) (notes_of_documentStep hg)

theorem leaves_of_breaks {e : Failure} (hb : Breaks (steps s) (.start path language) h r e h') :
    Leaves s path h.now h.disk r h' ∧ NotesDocument r := by
  have hstart : LeavesNone s path h.now h.disk (.start path language) h := leavesNone_of_worked rfl rfl rfl .idle
  rw [steps_eq_reports] at hb
  rcases hb.split with hb | ⟨r₁, h₁, hbefore, hafter⟩
  · have hnone := hb.carries (fun _ => carries_before) hstart
    exact ⟨hnone.2, fun hne => absurd hnone.1 hne⟩
  · have hnone := hbefore.carries (fun _ => carries_before) hstart
    refine ⟨hafter.carries (fun _ => carries_reports) hnone.2, fun hne => ?_⟩
    cases hafter with
    | here hf => exact absurd hnone.1 hne
    | later hg hrest => exact hrest.invariant (fun _ hm _ _ _ _ hr hg => notes_of_mem hm hr hg) (notes_of_documentStep hg)

theorem leaves_runSteps (path language : String) (h : Host) :
    let after := Host.after (runSteps (steps s) (.start path language)) h
    Leaves s path h.now h.disk after.1 after.2 ∧ NotesDocument after.1 := by
  dsimp only
  rcases passes_or_breaks (steps s) (.start path language) h with ⟨r, h', hp, hr⟩ | ⟨r, e, h', hb, hr⟩
  · obtain ⟨hleaves, hjson⟩ := leaves_of_passes hp
    rw [hr]
    exact ⟨hleaves, fun _ => hjson⟩
  · obtain ⟨hleaves, hjson⟩ := leaves_of_breaks hb
    rw [hr]
    exact ⟨hleaves.ended _ _, hjson⟩

/-- What an analysis leaves, however it goes. One that is refused leaves the host as it was. -/
theorem leaves_analyzeWith {config : Value} (hs : Settings.ofConfig config = .ok s) (path : String) (h : Host) :
    (∃ r h', Gives (analyzeWith config path) h r h' ∧ Leaves s path h.now h.disk r h' ∧ NotesDocument r) ∨
    ∃ e, Fails (analyzeWith config path) h e h := by
  by_cases hc : isEffectivelyEmpty h.disk path = true
  · have hnone : LeavesNone s path h.now h.disk (.skip path) h := leavesNone_of_worked rfl rfl rfl .idle
    exact .inl ⟨_, _, gives_skip config hc, hnone.2.ended _ _, fun hne => absurd hnone.1 hne⟩
  · rw [Bool.not_eq_true] at hc
    by_cases hl : Language.isSupported (Language.detect h.disk path) = true
    · have hb : Begins config path h s (Language.detect h.disk path) := ⟨hc, hs, rfl, hl⟩
      obtain ⟨hleaves, hjson⟩ := leaves_runSteps path (Language.detect h.disk path) h
      exact .inl ⟨_, _, gives_runSteps hb, hleaves, hjson⟩
    · refine .inr ⟨.unsupported (Language.detect h.disk path), ?_⟩
      refine fails_bind.mpr (.inr ⟨h, h, gives_get.mpr ⟨rfl, rfl⟩, ?_⟩)
      rw [if_neg (by simp [hc])]
      refine fails_bind.mpr (.inr ⟨s, h, gives_valid.mpr ⟨hs, rfl⟩, ?_⟩)
      refine fails_bind.mpr (.inr ⟨h, h, gives_get.mpr ⟨rfl, rfl⟩, ?_⟩)
      rw [if_pos (by simp [hl])]
      rfl

end Steps

end Leaves

end ThreatScan.Analysis
