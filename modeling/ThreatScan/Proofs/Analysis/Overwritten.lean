import ThreatScan.Proofs.Analysis.Skipped
import ThreatScan.Proofs.Analysis.Written
import ThreatScan.Proofs.Report.Naming
/-!
Reports of a batch that overwrite each other.

All files of a batch are analysed in the same second, so two reports of a batch are at the same path exactly if they are of the
same format and their files have the same stem: files of different directories share their reports. What a batch leaves at a
path is the report of the last file that was given the path (`InTurn.last_report`). So every report is still there at the end
exactly if no two files with reports have the same stem.
-/
namespace ThreatScan

namespace Visit

def reports (v : Visit) : List (String × String) :=
  match v.outcome with
  | .ok r => r.reports
  | .error _ => []

def HeldAt (v : Visit) (f : Format) (p : String) (d : Disk) : Prop :=
  ∃ r text, v.outcome = .ok r ∧ f.text v.host.now (Analysis.reportData r) = .ok text ∧ d.read p = .ok (.text text)

end Visit

namespace BatchRecord

def reportsIn (record : Value) : List (String × String) :=
  match (resultIn record).field? "reports" with
  | some (.dict fields) => fields.filterMap fun
    | (name, .str path) => some (name, path)
    | _ => none
  | _ => []

theorem reportsIn_entry (v : Visit) : reportsIn v.entry.toValue = v.reports := by
  have hfields : ∀ r : AnalysisResult, (r.reports.map fun p => (p.1, Value.str p.2)).filterMap (fun
      | (name, .str path) => some (name, path)
      | _ => none) = r.reports := by
    intro r
    induction r.reports with
    | nil => rfl
    | cons p rest ih => rw [List.map_cons, List.filterMap_cons, ih]
  obtain ⟨path, host, e | r⟩ := v
  · rfl
  · unfold Visit.entry
    dsimp only
    split
    · exact hfields r
    · exact hfields r

end BatchRecord

namespace Analysis

open Act Disk BatchRecord

structure VisitLeaves (s : Settings) (v : Visit) (h : Host) : Prop where
  now_eq : h.now = v.host.now
  path_eq : ∀ r, v.outcome = .ok r → r.path = v.path
  reports : ∀ name p, (name, p) ∈ v.reports →
    ∃ dir f, s.reportPath = .str dir ∧ name = f.name ∧ p = reportFile dir v.path v.host.now f ∧ v.HeldAt f p h.disk
  document : v.reports ≠ [] → ∃ p, (Format.json.name, p) ∈ v.reports
  worked : Worked (workScope v.host.now v.path fun p => ∃ name, (name, p) ∈ v.reports) v.host.disk h.disk

theorem not_mem_pieces_reportFile {dir path : String} {now : Instant} {f : Format} (hup : ".." ∉ Path.pieces dir) :
    ".." ∉ Path.pieces (reportFile dir path now f) := by
  intro h
  rcases Path.mem_pieces_join (not_mem_reportName path now f) h with h | h
  · exact hup h
  · have hbar : '_' ∈ (reportName path now f).toList := by simp [reportName]
    rw [← h] at hbar
    exact absurd hbar (by decide)

section Visits
variable {config : Value} {s : Settings} (hs : Settings.ofConfig config = .ok s)
include hs

theorem visitLeaves {path : String} {h h' : Host} {o : Except Failure AnalysisResult}
    (ho : (analyzeWith config path).outcome h = (o, h')) : VisitLeaves s ⟨path, h, o⟩ h' := by
  rcases leaves_analyzeWith hs path h with ⟨r, h₁, hg, hleaves, hjson⟩ | ⟨e, hf⟩
  · obtain ⟨rfl, rfl⟩ := Prod.mk.inj (ho.symm.trans hg)
    refine ⟨hleaves.now_eq, fun r' hr' => ?_, fun name p hp => ?_, hjson, hleaves.worked⟩
    · rw [← Except.ok.inj hr']
      exact hleaves.path_eq
    · obtain ⟨dir, f, text, hdir, hname, hp, htext, hread⟩ := hleaves.reports name p hp
      exact ⟨dir, f, hdir, hname, hp, r, text, rfl, htext, hread⟩
  · obtain ⟨rfl, rfl⟩ := Prod.mk.inj (ho.symm.trans hf)
    exact ⟨rfl, (fun _ hr => nomatch hr), fun _ _ hp => absurd hp List.not_mem_nil, fun hne => absurd rfl hne, .idle⟩

theorem InTurn.leaves {h h' : Host} {paths : List String} {visits : List Visit} (hv : InTurn config h paths visits h') :
    ∀ v ∈ visits, v.host.now = h.now ∧ ∃ h₁, VisitLeaves s v h₁ := by
  induction hv with
  | nil => exact fun _ hv => absurd hv List.not_mem_nil
  | @cons path _ _ h h₁ h₂ said said' o ho _ ih =>
    have hl := visitLeaves hs ho
    refine List.forall_mem_cons.mpr ⟨⟨rfl, h₁, hl⟩, fun v hv => ?_⟩
    obtain ⟨hn, hleaves⟩ := ih v hv
    exact ⟨hn.trans hl.now_eq, hleaves⟩

variable (hup : ∀ dir, s.reportPath = .str dir → ".." ∉ Path.pieces dir)
include hup

omit hs in
theorem VisitLeaves.spares {v : Visit} {h : Host} (hl : VisitLeaves s v h) {dir path : String} {f : Format} {c : Content}
    (hdir : s.reportPath = .str dir) (htools : ∀ q, ToolFile v.host.now v.path q → Path.baseName q ≠ reportName path v.host.now f)
    (hnot : (f.name, reportFile dir path v.host.now f) ∉ v.reports)
    (hr : v.host.disk.read (reportFile dir path v.host.now f) = .ok c) :
    h.disk.read (reportFile dir path v.host.now f) = .ok c := by
  refine hl.worked.spares ?_ (fun _ _ => not_mem_pieces_reportFile (hup dir hdir)) hr
  rw [baseName_reportFile]
  rintro q (hq | ⟨name, hq⟩)
  · exact htools q hq
  · obtain ⟨dir', g, hdir', hname, hq', -⟩ := hl.reports name q hq
    obtain rfl : dir' = dir := Value.str.inj (hdir'.symm.trans hdir)
    intro heq
    rw [hq', baseName_reportFile] at heq
    -- a report of the same name is one of the same format, and at the same path
    obtain ⟨rfl, hstem⟩ := reportName_inj.mp heq
    rw [hname, hq', reportFile_inj.mpr ⟨rfl, hstem⟩] at hq
    exact hnot hq

theorem InTurn.spares {h h' : Host} {paths : List String} {visits : List Visit} (hv : InTurn config h paths visits h')
    {dir path : String} {f : Format} {c : Content} (hdir : s.reportPath = .str dir)
    (htools : ∀ other ∈ paths, ∀ q, ToolFile h.now other q → Path.baseName q ≠ reportName path h.now f)
    (hnot : ∀ v ∈ visits, (f.name, reportFile dir path h.now f) ∉ v.reports)
    (hr : h.disk.read (reportFile dir path h.now f) = .ok c) : h'.disk.read (reportFile dir path h.now f) = .ok c := by
  induction hv with
  | nil => exact hr
  | @cons other others visits h h₁ h₂ said said' o ho _ ih =>
    have hl := visitLeaves hs ho
    have hn : h₁.now = h.now := hl.now_eq
    have hread : h₁.disk.read (reportFile dir path h.now f) = .ok c :=
      hl.spares hup hdir (htools other List.mem_cons_self) (hnot _ List.mem_cons_self) hr
    dsimp only at ih
    rw [hn] at ih
    exact ih (fun q hq => htools q (List.mem_cons_of_mem other hq)) (fun v hv => hnot v (List.mem_cons_of_mem _ hv)) hread

/-- At the path of a report, a batch leaves the report of the last file that was given the path. -/
theorem InTurn.last_report {h h' : Host} {paths : List String} {visits : List Visit} (hv : InTurn config h paths visits h')
    (htools : ∀ path ∈ paths, ∀ other ∈ paths, ∀ f q, ToolFile h.now other q → Path.baseName q ≠ reportName path h.now f)
    {f : Format} {p : String} (hp : ∃ v ∈ visits, (f.name, p) ∈ v.reports) :
    ∃ before w after, visits = before ++ w :: after ∧ (f.name, p) ∈ w.reports ∧ (∀ u ∈ after, (f.name, p) ∉ u.reports) ∧
      w.HeldAt f p h'.disk := by
  induction hv with
  | nil =>
    obtain ⟨v, hv, -⟩ := hp
    cases hv
  | @cons path others visits h h₁ h₂ said said' o ho hrest ih =>
    have hl := visitLeaves hs ho
    have hn : h₁.now = h.now := hl.now_eq
    by_cases hlater : ∃ v ∈ visits, (f.name, p) ∈ v.reports
    · -- a later file was given the path as well
      dsimp only at ih
      rw [hn] at ih
      obtain ⟨before, w, after, hsplit, hw, hafter, hheld⟩ := ih (fun q hq r hr =>
        htools q (List.mem_cons_of_mem path hq) r (List.mem_cons_of_mem path hr)) hlater
      exact ⟨_ :: before, w, after, by rw [hsplit]; rfl, hw, hafter, hheld⟩
    · have hnot : ∀ v ∈ visits, (f.name, p) ∉ v.reports := fun v hv hmem => hlater ⟨v, hv, hmem⟩
      obtain ⟨v, hv, hmem⟩ := hp
      rcases List.mem_cons.mp hv with hv | hv
      · rw [hv] at hmem
        obtain ⟨dir, g, hdir, hname, hpath, r, text, ho', htext, hread⟩ := hl.reports f.name p hmem
        obtain rfl := Format.name_inj hname
        refine ⟨[], _, visits, rfl, hmem, hnot, r, text, ho', htext, ?_⟩
        rw [hpath] at hread hnot ⊢
        dsimp only at hread hnot ⊢
        rw [← hn] at hread hnot ⊢
        refine hrest.spares hs hup hdir (fun other hother => ?_) hnot hread
        dsimp only
        rw [hn]
        exact htools path List.mem_cons_self other (List.mem_cons_of_mem path hother) f
      · exact absurd hmem (hnot v hv)

end Visits

/-! ## Paths of reports -/

section Paths
variable {config : Value} {s : Settings} {h h' : Host} {paths : List String} {visits : List Visit}
  (hs : Settings.ofConfig config = .ok s) (hv : InTurn config h paths visits h')
include hs hv

/-- Two reports of a batch are at one path if they are of one format and their files of one stem. -/
theorem report_path_eq_iff {v w : Visit} (hmem : v ∈ visits) (hmem' : w ∈ visits) {f g : Format} {p q : String}
    (hp : (f.name, p) ∈ v.reports) (hq : (g.name, q) ∈ w.reports) : p = q ↔ f = g ∧ stem v.path = stem w.path := by
  obtain ⟨hnow, h₁, hl⟩ := hv.leaves hs v hmem
  obtain ⟨hnow', h₂, hl'⟩ := hv.leaves hs w hmem'
  obtain ⟨dir, f', hdir, hname, hp, -⟩ := hl.reports f.name p hp
  obtain ⟨dir', g', hdir', hname', hq, -⟩ := hl'.reports g.name q hq
  obtain rfl := Format.name_inj hname
  obtain rfl := Format.name_inj hname'
  obtain rfl : dir' = dir := Value.str.inj (hdir'.symm.trans hdir)
  rw [hp, hq, hnow, hnow']
  exact reportFile_inj

/-- A path that holds the document on two visited files is the path of one file only. -/
theorem path_eq_of_held {v w : Visit} (hmem : v ∈ visits) (hmem' : w ∈ visits) {p : String} (hheld : v.HeldAt .json p h'.disk)
    (hheld' : w.HeldAt .json p h'.disk) : v.path = w.path := by
  obtain ⟨hnow, h₁, hl⟩ := hv.leaves hs v hmem
  obtain ⟨hnow', h₂, hl'⟩ := hv.leaves hs w hmem'
  obtain ⟨r, text, ho, htext, hread⟩ := hheld
  obtain ⟨r', text', ho', htext', hread'⟩ := hheld'
  cases hread.symm.trans hread'
  rw [hnow] at htext
  rw [hnow'] at htext'
  rw [← hl.path_eq r ho, ← hl'.path_eq r' ho']
  exact Report.path_of_json_eq (Except.ok.inj (htext.trans htext'.symm))

/-- Every report is still there after the batch if and only if no two files with reports have the same stem. -/
theorem held_iff_nodup (hup : ∀ dir, s.reportPath = .str dir → ".." ∉ Path.pieces dir) (hpaths : paths.Nodup)
    (htools : ∀ path ∈ paths, ∀ other ∈ paths, ∀ f q, ToolFile h.now other q → Path.baseName q ≠ reportName path h.now f) :
    (∀ v ∈ visits, ∀ f p, (Format.name f, p) ∈ v.reports → v.HeldAt f p h'.disk) ↔
      ((visits.filter fun v => !v.reports.isEmpty).map fun v => stem v.path).Nodup := by
  have hnoting : ∀ v, v ∈ visits.filter (fun v => !v.reports.isEmpty) ↔ v ∈ visits ∧ v.reports ≠ [] := by simp
  constructor
  · intro hheld
    rw [← hv.paths_eq, List.Nodup, List.pairwise_map] at hpaths
    rw [List.Nodup, List.pairwise_map]
    refine (hpaths.sublist List.filter_sublist).imp_of_mem ?_
    intro v w hmem hmem' hne hstem
    obtain ⟨hmem, hreports⟩ := (hnoting v).mp hmem
    obtain ⟨hmem', hreports'⟩ := (hnoting w).mp hmem'
    obtain ⟨-, h₁, hl⟩ := hv.leaves hs v hmem
    obtain ⟨-, h₂, hl'⟩ := hv.leaves hs w hmem'
    obtain ⟨p, hp⟩ := hl.document hreports
    obtain ⟨q, hq⟩ := hl'.document hreports'
    obtain rfl := (report_path_eq_iff hs hv hmem hmem' hp hq).mpr ⟨rfl, hstem⟩
    exact hne (path_eq_of_held hs hv hmem hmem' (hheld v hmem .json p hp) (hheld w hmem' .json p hq))
  · intro hnodup v hmem f p hp
    obtain ⟨before, w, after, hsplit, hw, -, hheld⟩ := hv.last_report hs hup htools ⟨v, hmem, hp⟩
    have hmem' : w ∈ visits := by simp [hsplit]
    have hstem := (report_path_eq_iff hs hv hmem hmem' hp hw).mp rfl
    have hvw : v = w := List.inj_on_of_nodup_map hnodup ((hnoting v).mpr ⟨hmem, List.ne_nil_of_mem hp⟩)
      ((hnoting w).mpr ⟨hmem', List.ne_nil_of_mem hw⟩) hstem.2
    rw [hvw]
    exact hheld

end Paths

/-- Reports end in one of two letters, so a file whose path ends otherwise is not named like one. -/
theorem baseName_ne_reportName {now : Instant} {path q : String} {f : Format} {c : Char} (hc : q.toList.getLast? = some c)
    (hslash : c ≠ '/') (hn : c ≠ 'n') (hl : c ≠ 'l') : Path.baseName q ≠ reportName path now f := by
  intro heq
  have hlast := Path.last_baseName hc hslash
  rw [heq, reportName, String.toList_append, List.getLast?_append] at hlast
  cases f with
  | json =>
    rw [show Format.json.ending.toList.getLast? = some 'n' by decide] at hlast
    exact hn (Option.some.inj hlast).symm
  | html =>
    rw [show Format.html.ending.toList.getLast? = some 'l' by decide] at hlast
    exact hl (Option.some.inj hlast).symm
  | markdown =>
    rw [show Format.markdown.ending.toList.getLast? = some 'n' by decide] at hlast
    exact hn (Option.some.inj hlast).symm

/-- No tool uses the name of a report, unless the file that it works on or the class file of that has it. -/
theorem baseName_ne_of_toolFile {now : Instant} {path other q : String} {f : Format}
    (hname : Path.baseName other ≠ reportName path now f) (hclass : Path.baseName (Host.classFile other) ≠ reportName path now f)
    (hq : ToolFile now other q) : Path.baseName q ≠ reportName path now f := by
  have hends : ∀ (front ending : String) (c : Char), ending.toList.getLast? = some c →
      (front ++ ending).toList.getLast? = some c := by
    intro front ending c hc
    rw [String.toList_append, List.getLast?_append, hc]
    rfl
  cases hq with
  | copy dir =>
    rw [Path.baseName_join (Path.headPart_append_baseName other).2.1]
    exact hname
  | classFile => exact hclass
  | log => exact baseName_ne_reportName (hends _ ".log" 'g' (by decide)) (by decide) (by decide) (by decide)
  | script name => exact baseName_ne_reportName (hends _ ".py" 'y' (by decide)) (by decide) (by decide) (by decide)

/-- What becomes of the reports of a batch. Two are at the same path exactly if they are of one format and their files of one
stem. Each path holds the report of the last file that was given it. So, of pairwise different files, each has its own reports
at the end exactly if those with reports have different stems. -/
structure ReportsByStem (paths : List String) (visits : List Visit) (d : Disk) : Prop where
  shared : ∀ v ∈ visits, ∀ w ∈ visits, ∀ f g p q, (Format.name f, p) ∈ v.reports → (Format.name g, q) ∈ w.reports →
    (p = q ↔ f = g ∧ stem v.path = stem w.path)
  last : ∀ v ∈ visits, ∀ f p, (Format.name f, p) ∈ v.reports →
    ∃ before w after, visits = before ++ w :: after ∧ (f.name, p) ∈ w.reports ∧ (∀ u ∈ after, (f.name, p) ∉ u.reports) ∧
      w.HeldAt f p d
  kept : paths.Nodup → ((∀ v ∈ visits, ∀ f p, (Format.name f, p) ∈ v.reports → v.HeldAt f p d) ↔
    ((visits.filter fun v => !v.reports.isEmpty).map fun v => stem v.path).Nodup)

/-- No file of the batch, nor the class file of one, is named like a report on a file of the batch. -/
def NamedApart (now : Instant) (paths : List String) : Prop :=
  ∀ path ∈ paths, ∀ other ∈ paths, ∀ f, Path.baseName other ≠ reportName path now f ∧
    Path.baseName (Host.classFile other) ≠ reportName path now f

section Batch
variable {c : Value} {s : Settings} {h : Host} {paths : List String} (hs : Settings.ofConfig c = .ok s)
  (hup : ∀ dir, s.reportPath = .str dir → ".." ∉ Path.pieces dir) (hnames : NamedApart h.now paths)
include hs hup hnames

theorem InTurn.reportsByStem {visits : List Visit} {h' : Host} (hv : InTurn c h paths visits h') :
    ReportsByStem paths visits h'.disk := by
  have htools : ∀ path ∈ paths, ∀ other ∈ paths, ∀ f q, ToolFile h.now other q → Path.baseName q ≠ reportName path h.now f :=
    fun path hpath other hother f q => baseName_ne_of_toolFile (hnames path hpath other hother f).1
      (hnames path hpath other hother f).2
  exact ⟨fun v hmem w hmem' f g p q hp hq => report_path_eq_iff hs hv hmem hmem' hp hq,
    fun v hmem f p hp => hv.last_report hs hup htools ⟨v, hmem, hp⟩, fun hpaths => held_iff_nodup hs hv hup hpaths htools⟩

end Batch

theorem map_reportsIn {visits : List Visit} {b : Batch} (hb : Batch.ofEntries (visits.map Visit.entry) = .ok b) :
    (recordsIn b.toValue).map reportsIn = visits.map Visit.reports := by
  rw [recordsIn_toValue, (Batch.ofEntries_eq_ok.mp hb).2.1, List.map_map, List.map_map]
  exact List.map_congr_left fun v _ => reportsIn_entry v

/-- A batch always comes to its record, and what it leaves of the reports in the record depends on the stems of the files only.
It is supposed that the path to the reports never goes up, and that no file of the batch is named like a report. -/
theorem batch_reports_kept_iff_stems_differ {config : Option Value} {c : Value} {s : Settings} {h h₁ : Host}
    {paths : List String} (hc : Gives (configOr config) h c h₁) (hs : Settings.ofConfig c = .ok s)
    (hup : ∀ dir, s.reportPath = .str dir → ".." ∉ Path.pieces dir) (hnames : NamedApart h.now paths) :
    ∃ visits b h', Gives (analyzeMany config paths) h b h' ∧ InTurn c h₁ paths visits h' ∧
      (recordsIn b.toValue).map reportsIn = visits.map Visit.reports ∧ ReportsByStem paths visits h'.disk := by
  cases host_of_configOr hc
  obtain ⟨visits, b, h', hg, hv, hb⟩ := exists_analyzeMany hc paths
  exact ⟨visits, b, h', hg, hv, map_reportsIn hb, hv.reportsByStem hs hup hnames⟩

namespace SameStem

def host : Host :=
  { refusingHost [] with
    disk := ⟨[(workPlace ++ ["r"], .dir), (workPlace ++ ["a"], .dir), (workPlace ++ ["b"], .dir),
      (workPlace ++ ["a", "x.py"], .file (.text "f()\n") none), (workPlace ++ ["b", "x.py"], .file (.text "g()\n") none)]⟩
    parser := fun _ => ⟨some (.node "Module" none []), none, none⟩ }

def config : Value :=
  .dict [("settings", .dict [("enable_static_analysis", .bool false), ("enable_dynamic_analysis", .bool false),
    ("report_path", .str "r")])]

def common : Settings := ⟨false, false, true, .int 30, .str "r", .dict []⟩

def paths : List String := ["a/x.py", "b/x.py"]

def reports : List (String × String) :=
  [("json", "r/x_20240102_030405.json"), ("html", "r/x_20240102_030405.html"), ("markdown", "r/x_20240102_030405.md.markdown")]

theorem down (dir : String) (h : common.reportPath = .str dir) : ".." ∉ Path.pieces dir := by
  cases h
  decide

theorem namedApart : NamedApart host.now paths := by
  have hlast : ∀ other ∈ paths, other.toList.getLast? = some 'y' ∧ (Host.classFile other).toList.getLast? = some 'y' := by decide
  intro path _ other hother f
  obtain ⟨hname, hclass⟩ := hlast other hother
  exact ⟨baseName_ne_reportName hname (by decide) (by decide) (by decide),
    baseName_ne_reportName hclass (by decide) (by decide) (by decide)⟩

def recorded : Except Failure Batch → List (List (String × String))
  | .ok b => (recordsIn b.toValue).map reportsIn
  | .error _ => []

theorem recorded_eq : recorded ((analyzeMany (some config) paths).outcome host).1 = [reports, reports] := by decide +kernel

/-- Both files note the same reports, so those on the first file are lost. -/
theorem reports_on_first_file_lost : ∃ visits b h', Gives (analyzeMany (some config) paths) host b h' ∧
    InTurn config host paths visits h' ∧ paths.Nodup ∧ (recordsIn b.toValue).map reportsIn = [reports, reports] ∧
    ¬ ∀ v ∈ visits, ∀ f p, (Format.name f, p) ∈ v.reports → v.HeldAt f p h'.disk := by
  have hs : Settings.ofConfig config = .ok common := rfl
  have hc : Gives (configOr (some config)) host config host := gives_pure.mpr ⟨rfl, rfl⟩
  have hpaths : paths.Nodup := by decide
  obtain ⟨visits, b, h', hg, hv, hb⟩ := exists_analyzeMany hc paths
  have hrecorded : (recordsIn b.toValue).map reportsIn = [reports, reports] := by
    have heq := recorded_eq
    rwa [hg] at heq
  refine ⟨visits, b, h', hg, hv, hpaths, hrecorded, ?_⟩
  rw [(hv.reportsByStem hs down namedApart).kept hpaths]
  have hreports : visits.map Visit.reports = [reports, reports] := (map_reportsIn hb).symm.trans hrecorded
  obtain ⟨v, others, rfl, hfirst, hothers⟩ := List.map_eq_cons_iff.mp hreports
  obtain ⟨w, others, rfl, hsecond, hothers⟩ := List.map_eq_cons_iff.mp hothers
  obtain rfl := List.map_eq_nil_iff.mp hothers
  have hvisited := hv.paths_eq
  simp only [List.map_cons, List.map_nil, paths, List.cons.injEq, and_true] at hvisited
  have hstem : stem v.path = stem w.path := by
    rw [hvisited.1, hvisited.2]
    decide
  have hfiltered : [v, w].filter (fun v => !v.reports.isEmpty) = [v, w] := by
    simp [hfirst, hsecond, reports]
  rw [hfiltered]
  simp [hstem]

theorem reports_of_same_stem : Gives (configOr (some config)) host config host ∧ Settings.ofConfig config = .ok common ∧
    ".." ∉ Path.pieces "r" ∧ NamedApart host.now paths ∧
    ∃ visits b h', Gives (analyzeMany (some config) paths) host b h' ∧ InTurn config host paths visits h' ∧
      (recordsIn b.toValue).map reportsIn = visits.map Visit.reports ∧ ReportsByStem paths visits h'.disk := by
  have hs : Settings.ofConfig config = .ok common := rfl
  have hc : Gives (configOr (some config)) host config host := gives_pure.mpr ⟨rfl, rfl⟩
  exact ⟨hc, hs, down "r" rfl, namedApart, batch_reports_kept_iff_stems_differ hc hs down namedApart⟩

end SameStem

end Analysis
end ThreatScan
