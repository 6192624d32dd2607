import ThreatScan.Proofs.Analysis.Steps
import ThreatScan.Proofs.Clock
import ThreatScan.Proofs.Host.Within
/-!
The reports that an analysis saves.

A report of a file is named for the file without its directory and extension, for the second in which it is made, and for its
format (`reportName`); two reports made in the same second have the same name exactly if they are of the same format and
their files have the same stem (`reportName_inj`). Saving a report touches nothing but its file and the directories that lead
to the directory of reports. It either fails, and leaves no file, or leaves the text of the report under the path that it notes
in the result (`savesOrFails_step`).
-/
namespace ThreatScan

inductive Format where
  | json | html | markdown
  deriving DecidableEq, Repr

namespace Format

def name : Format → String
  | json => "json"
  | html => "html"
  | markdown => "markdown"

theorem name_inj {f g : Format} (h : f.name = g.name) : f = g := by
  revert h
  cases f <;> cases g <;> decide

def ending : Format → String
  | json => ".json"
  | html => ".html"
  | markdown => ".md.markdown"

/-- The extension under which a report is handed over to be saved; a file that does not end in the name of its format is given
that as a further extension. -/
def given : Format → String
  | json => ".json"
  | html => ".html"
  | markdown => ".md"

def text (now : Instant) (results : Value) : Format → Except Fault String
  | json => .ok (Report.json now results)
  | html => Report.html now results
  | markdown => Report.markdown now results

def step (s : Settings) : Format → Analysis.Step
  | json => Analysis.documentStep s
  | html => Analysis.pageStep s
  | markdown => Analysis.markdownStep s

end Format

namespace Analysis

open Act Disk

/-! ## Names of reports -/

def stem (path : String) : String := (Path.splitExt (Path.baseName path)).1

def reportName (path : String) (now : Instant) (f : Format) : String := stem path ++ "_" ++ now.stamp ++ f.ending

def reportFile (dir path : String) (now : Instant) (f : Format) : String := Path.join dir (reportName path now f)

theorem splitName_isPrefix (name : List Char) : (Path.splitName name).1 <+: name := by
  rw [Path.splitName]
  split
  · exact List.prefix_rfl
  · dsimp only
    split
    · exact List.prefix_rfl
    · exact List.take_prefix _ _

theorem stem_isPrefix (path : String) : (stem path).toList <+: (Path.baseName path).toList := by
  obtain ⟨hsplit, -⟩ := Path.headPart_append_baseName (Path.baseName path)
  rw [stem]
  generalize Path.baseName path = name at hsplit
  have hstem : (Path.splitExt name).1.toList =
      Path.headPart name ++ (Path.splitName (name.toList.drop (Path.headPart name).length)).1 := by
    rw [Path.splitExt, String.toList_ofList]
  rw [hstem, hsplit, List.drop_left, List.prefix_append_right_inj]
  exact splitName_isPrefix _

theorem not_mem_stem (path : String) : '/' ∉ (stem path).toList := fun h =>
  (Path.headPart_append_baseName path).2.1 ((stem_isPrefix path).subset h)

theorem not_mem_stamp (now : Instant) : '/' ∉ now.stamp.toList := by
  have hdigits : ∀ width n, '/' ∉ (Text.padded width n).toList := by
    intro width n h
    have hdigit := Text.isDigit_of_mem_padded h
    cases hdigit
  have hbar : "_".toList = ['_'] := by decide
  simp [Instant.stamp, hdigits, hbar]

theorem not_mem_reportName (path : String) (now : Instant) (f : Format) : '/' ∉ (reportName path now f).toList := by
  have hbar : "_".toList = ['_'] := by decide
  have hending : '/' ∉ f.ending.toList := by cases f <;> decide
  simp [reportName, not_mem_stem, not_mem_stamp, hbar, hending]

theorem not_mem_given (path : String) (now : Instant) (f : Format) :
    '/' ∉ (stem path ++ "_" ++ now.stamp ++ f.given).toList := by
  have hbar : "_".toList = ['_'] := by decide
  have hgiven : '/' ∉ f.given.toList := by cases f <;> decide
  simp [not_mem_stem, not_mem_stamp, hbar, hgiven]

theorem baseName_reportFile (dir path : String) (now : Instant) (f : Format) :
    Path.baseName (reportFile dir path now f) = reportName path now f := Path.baseName_join (not_mem_reportName path now f)

/-- The last two characters tell the formats apart. -/
theorem ending_inj {x y : List Char} {f g : Format} (h : x ++ f.ending.toList = y ++ g.ending.toList) : f = g := by
  have hlast := congrArg (fun s => s.reverse.take 2) h
  simp only [List.reverse_append] at hlast
  rw [List.take_append_of_le_length (by cases f <;> decide), List.take_append_of_le_length (by cases g <;> decide)] at hlast
  cases f <;> cases g <;> first | rfl | exact absurd hlast (by decide)

/-- Reports of the same second have the same name if they are of one format and their files of one stem. -/
theorem reportName_inj {path other : String} {now : Instant} {f g : Format} :
    reportName path now f = reportName other now g ↔ f = g ∧ stem path = stem other := by
  constructor
  · intro h
    have h := String.toList_inj.mpr h
    simp only [reportName, String.toList_append] at h
    obtain rfl := ending_inj h
    rw [List.append_left_inj, List.append_left_inj, List.append_left_inj, String.toList_inj] at h
    exact ⟨rfl, h⟩
  · rintro ⟨rfl, hstem⟩
    rw [reportName, reportName, hstem]

theorem reportFile_inj {dir path other : String} {now : Instant} {f g : Format} :
    reportFile dir path now f = reportFile dir other now g ↔ f = g ∧ stem path = stem other := by
  have hname : reportFile dir path now f = reportFile dir other now g ↔ reportName path now f = reportName other now g := by
    constructor
    · intro h
      rw [← baseName_reportFile dir path, h, baseName_reportFile]
    · intro h
      rw [reportFile, reportFile, h]
  rw [hname, reportName_inj]

/-! ## Saving -/

/-- The scope of saving reports: the files given, and the directories that lead to the directory of reports. -/
def reportScope (s : Settings) (files : String → Prop) : Scope where
  files := files
  made := fun q => ∃ dir, s.reportPath = .str dir ∧ q.toList <+: dir.toList
  dropped := fun _ => False

theorem reportDir_eq_ok {s : Settings} {dir : String} : reportDir s = .ok dir ↔ s.reportPath = .str dir := by
  unfold reportDir
  split
  · next p hp => simp [hp]
  · next hne =>
    constructor
    · intro h
      cases h
    · exact fun h => absurd h (hne dir)

theorem endsWith_append (s t : String) : Text.endsWith (s ++ t) t = true := by
  unfold Text.endsWith
  rw [List.isSuffixOf_iff_suffix, String.toList_append]
  exact List.suffix_append _ _

theorem endsWith_eq_false (s : String) : Text.endsWith (s ++ ".md") ".markdown" = false := by
  rw [Bool.eq_false_iff]
  intro h
  unfold Text.endsWith at h
  rw [List.isSuffixOf_iff_suffix, String.toList_append] at h
  obtain ⟨x, hx⟩ := h
  have hn : ".markdown".toList.getLast? = some 'n' := by decide
  have hd : ".md".toList.getLast? = some 'd' := by decide
  have hlast := congrArg List.getLast? hx
  rw [List.getLast?_append, List.getLast?_append, hn, hd, Option.some_or, Option.some_or] at hlast
  exact absurd (Option.some.inj hlast) (by decide)

theorem pathFor_append (base : String) (f : Format) : Report.pathFor (base ++ f.given) f.name = base ++ f.ending := by
  rw [Report.pathFor]
  cases f with
  | json =>
    have hdot : "." ++ Format.json.name = ".json" := by decide
    rw [hdot]
    exact if_pos (endsWith_append base ".json")
  | html =>
    have hdot : "." ++ Format.html.name = ".html" := by decide
    rw [hdot]
    exact if_pos (endsWith_append base ".html")
  | markdown =>
    have hdot : "." ++ Format.markdown.name = ".markdown" := by decide
    have hends : ¬ Text.endsWith (base ++ Format.markdown.given) ".markdown" = true := by
      rw [Bool.not_eq_true]
      exact endsWith_eq_false base
    rw [hdot, if_neg hends, String.append_assoc, String.append_assoc]
    congr 1

theorem pathFor_reportPath (dir path : String) (now : Instant) (f : Format) :
    Report.pathFor (reportPath dir path now f.given) f.name = reportFile dir path now f := by
  have hname : '/' ∉ (stem path ++ "_" ++ now.stamp).toList := by
    have hbar : "_".toList = ['_'] := by decide
    simp [not_mem_stem, not_mem_stamp, hbar]
  have hjoin : ∀ ending : String, '/' ∉ ending.toList →
      Path.join dir (stem path ++ "_" ++ now.stamp ++ ending) = Path.join dir (stem path ++ "_" ++ now.stamp) ++ ending :=
    fun ending he => (Path.join_append hname he).symm
  have hgiven : reportPath dir path now f.given = Path.join dir (stem path ++ "_" ++ now.stamp) ++ f.given :=
    hjoin f.given (by cases f <;> decide)
  rw [hgiven, pathFor_append, reportFile, reportName, hjoin f.ending (by cases f <;> decide)]

/-- Saving makes directories first, and then writes the file. -/
theorem save_cases (d : Disk) (content path format : String) :
    ∃ d₁, (d₁ = d ∨ d.makeDirs (Path.dirName path) = .ok d₁) ∧
      ((∃ e, Report.save d content path format = (.error e, d₁)) ∨
        ∃ d', d₁.write (Report.pathFor path format) (.text content) = .ok d' ∧
          Report.save d content path format = (.ok (Report.pathFor path format), d')) := by
  unfold Report.save
  dsimp only
  generalize hmade : (if (Path.dirName path).isEmpty then .ok d else d.makeDirs (Path.dirName path)) = made
  cases made with
  | error e => exact ⟨d, .inl rfl, .inl ⟨e, rfl⟩⟩
  | ok d₁ =>
    refine ⟨d₁, ?_, ?_⟩
    · split at hmade
      · exact .inl (Except.ok.inj hmade).symm
      · exact .inr hmade
    · dsimp only
      cases d₁.write (Report.pathFor path format) (.text content) with
      | error e => exact .inl ⟨e, rfl⟩
      | ok d' => exact .inr ⟨d', rfl, rfl⟩

def noted (r : AnalysisResult) (dir : String) (now : Instant) (f : Format) : AnalysisResult :=
  { r with reports := r.reports ++ [(f.name, reportFile dir r.path now f)] }

/-- The action fails and leaves no file, or it writes a content to the file of a report, and nothing else, and notes that. -/
def SavesOrFails (s : Settings) (r : AnalysisResult) (f : Format) (content : String → Prop) (x : Act AnalysisResult)
    (h : Host) : Prop :=
  (∃ e h', Fails x h e h' ∧ h'.now = h.now ∧ Worked (reportScope s fun _ => False) h.disk h'.disk) ∨
  ∃ dir text h', Gives x h (noted r dir h.now f) h' ∧ s.reportPath = .str dir ∧ content text ∧ h'.now = h.now ∧
    h'.disk.read (reportFile dir r.path h.now f) = .ok (.text text) ∧
    Worked (reportScope s (· = reportFile dir r.path h.now f)) h.disk h'.disk

theorem worked_reports {s : Settings} {d d' : Disk} (hw : Worked (reportScope s fun _ => False) d d')
    (files : String → Prop) : Worked (reportScope s files) d d' := hw.mono (fun _ hf => hf.elim) (fun _ h => h) fun _ h => h

section Save
variable {α : Type} {s : Settings} {r : AnalysisResult} {f : Format} {content : String → Prop} {h h₁ : Host}

/-- What comes before may print and make directories. -/
theorem SavesOrFails.bind {x : Act α} {g : α → Act AnalysisResult} {a : α} (hx : Gives x h a h₁) (hn : h₁.now = h.now)
    (hw : Worked (reportScope s fun _ => False) h.disk h₁.disk) (hg : SavesOrFails s r f content (g a) h₁) :
    SavesOrFails s r f content (x >>= g) h := by
  rcases hg with ⟨e, h', hf, hn', hw'⟩ | ⟨dir, text, h', hg, hdir, hc, hn', hread, hw'⟩
  · exact .inl ⟨e, h', fails_bind.mpr (.inr ⟨a, h₁, hx, hf⟩), hn'.trans hn, hw.andThen hw'⟩
  · rw [hn] at hg hread hw'
    exact .inr ⟨dir, text, h', gives_bind.mpr ⟨a, h₁, hx, hg⟩, hdir, hc, hn'.trans hn, hread, (worked_reports hw _).andThen hw'⟩

theorem SavesOrFails.of_fails {x : Act α} {g : α → Act AnalysisResult} {e : Failure} (hx : Fails x h e h₁) (hn : h₁.now = h.now)
    (hw : Worked (reportScope s fun _ => False) h.disk h₁.disk) : SavesOrFails s r f content (x >>= g) h :=
  .inl ⟨e, h₁, fails_bind.mpr (.inl hx), hn, hw⟩

theorem savesOrFails_saveReport {text : String} (hc : content text) :
    SavesOrFails s r f content (saveReport s text f.given f.name r) h := by
  refine .bind (gives_get.mpr ⟨rfl, rfl⟩) rfl .idle ?_
  cases hdir : reportDir s with
  | error e => exact .of_fails rfl rfl .idle
  | ok dir =>
    refine .bind (gives_valid.mpr ⟨rfl, rfl⟩) rfl .idle ?_
    rw [reportDir_eq_ok] at hdir
    have hmade : ∀ {d₁}, (d₁ = h.disk ∨ h.disk.makeDirs (Path.dirName (reportPath dir r.path h.now f.given)) = .ok d₁) →
        Worked (reportScope s fun _ => False) h.disk d₁ := by
      rintro d₁ (rfl | hd)
      · exact .idle
      · exact .makeDirs (fun q hq => ⟨dir, hdir, hq.trans (Path.dirName_join_isPrefix (not_mem_given r.path h.now f))⟩) hd
    obtain ⟨d₁, hd₁, ⟨e, hsave⟩ | ⟨d', hw, hsave⟩⟩ := save_cases h.disk text (reportPath dir r.path h.now f.given) f.name
    · rw [hsave]
      exact .inl ⟨.disk e, { h with disk := d₁ }, rfl, rfl, hmade hd₁⟩
    · rw [pathFor_reportPath] at hw hsave
      rw [hsave]
      exact .inr ⟨dir, text, { h with disk := d' }, rfl, hdir, hc, rfl, read_write hw,
        (worked_reports (hmade hd₁) _).andThen (.write rfl hw)⟩

/-- A step that saves a report fails and leaves no file, or saves the text of the report and notes where. -/
theorem savesOrFails_step (s : Settings) (f : Format) (r : AnalysisResult) (h : Host) :
    SavesOrFails s r f (fun text => f.text h.now (reportData r) = .ok text) (f.step s r) h := by
  -- the page and the Markdown are made before anything is saved
  have hmade : ∀ (x : Except Fault String), x = f.text h.now (reportData r) →
      SavesOrFails s r f (fun text => f.text h.now (reportData r) = .ok text)
        (do saveReport s (← Act.valid x) f.given f.name r) h := by
    rintro (e | text) hx
    · exact .of_fails rfl rfl .idle
    · exact .bind (gives_valid.mpr ⟨rfl, rfl⟩) rfl .idle (savesOrFails_saveReport hx.symm)
  cases f with
  | html => exact .bind (gives_get.mpr ⟨rfl, rfl⟩) rfl .idle (hmade _ rfl)
  | markdown => exact .bind (gives_get.mpr ⟨rfl, rfl⟩) rfl .idle (hmade _ rfl)
  | json =>
    refine .bind gives_say rfl .idle (.bind (gives_get.mpr ⟨rfl, rfl⟩) rfl .idle ?_)
    cases hdir : reportDir s with
    | error e => exact .of_fails rfl rfl .idle
    | ok dir =>
      refine .bind (gives_valid.mpr ⟨rfl, rfl⟩) rfl .idle ?_
      rw [reportDir_eq_ok] at hdir
      let g : Host := { h with printed := h.printed ++ "[INFO] Generating reports..." ++ "\n" }
      cases hd : g.disk.makeDirs dir with
      | error e => exact .of_fails (fails_onDisk.mpr ⟨e, hd, rfl, rfl⟩) rfl .idle
      | ok d =>
        have hw : Worked (reportScope s fun _ => False) g.disk d := .makeDirs (fun q hq => ⟨dir, hdir, hq⟩) hd
        exact .bind (a := ()) (gives_onDisk.mpr ⟨d, hd, rfl⟩) rfl hw (savesOrFails_saveReport rfl)

end Save

/-! ## The steps without a report -/

section Compute
variable {now : Instant} {scope : Scope}

theorem within_say (line : String) : Within now scope (say line) := .of_onlyPrints (.print line)

/-- A step that says what it does and computes something that it puts into the result. -/
theorem within_computed {α β : Type} (line : String) (x : Except Fault α) (f : α → β) :
    Within now scope (say line >>= fun _ => valid x >>= fun a => pure (f a)) :=
  .bind' (within_say line) fun _ => .bind' (.valid x) fun _ => .pure' _

end Compute

end Analysis
end ThreatScan
