import ThreatScan.Analysis.Batch
import ThreatScan.Proofs.Analysis.Steps
import ThreatScan.Proofs.Threat.Judged
/-!
How a batch accounts for its files.

A batch visits its files in turn (`InTurn`): each analysis begins on the host that the one before it left, and a file that is
passed over or refused does not keep the next one from its turn. Each visit makes one entry (`inTurn_entriesFrom`). All
threats state a severity, so the overall risk can always be assessed (`exists_ofEntries`), and with a configuration at hand
the batch comes to its end (`exists_analyzeMany`).

The record of a batch is read by the views `recordsIn`, `succeeded` and `threatsIn`, which look at it as its readers do. The
main statement is that the record accounts for every file (`Accounted`): one record of each visit in turn, numbers that add
up, and the threats of the files that succeeded, each marked with its file.
-/
namespace ThreatScan

/-! ## Files in turn -/

theorem FileEntry.success_eq_isSome (e : FileEntry) : e.success = e.result?.isSome := by
  obtain ⟨path, r | r | message⟩ := e <;> rfl

/-- The turn of a file: the host at its turn, and what comes of its analysis. -/
structure Visit where
  path : String
  host : Host
  outcome : Except Failure AnalysisResult

namespace Visit

def result? (v : Visit) : Option AnalysisResult :=
  match v.outcome with
  | .ok r => if r.ending = .skipped then none else some r
  | .error _ => none

def threats (v : Visit) : List Threat := (v.result?.map AnalysisResult.threats).getD []

theorem outcome_of_result? {v : Visit} {r : AnalysisResult} (h : v.result? = some r) : v.outcome = .ok r := by
  unfold result? at h
  split at h
  · next ho =>
    split at h
    · cases h
    · cases h
      exact ho
  · cases h

def entry (v : Visit) : FileEntry :=
  match v.outcome with
  | .ok r => if r.ending = .skipped then ⟨v.path, .skipped r⟩ else ⟨v.path, .done { r with mark := some v.path }⟩
  | .error e => ⟨v.path, .failed e.message⟩

@[simp] theorem path_entry (v : Visit) : v.entry.path = v.path := by
  unfold entry
  split
  · split <;> rfl
  · rfl

theorem result?_entry (v : Visit) : v.entry.result? = v.result?.map fun r => { r with mark := some v.path } := by
  unfold entry result?
  split
  · split <;> rfl
  · rfl

theorem success_entry (v : Visit) : v.entry.success = v.result?.isSome := by
  rw [FileEntry.success_eq_isSome, result?_entry, Option.isSome_map]

theorem threats_entry (v : Visit) : v.entry.threats = v.threats.map (Threat.tagged v.path) := by
  rw [FileEntry.threats, result?_entry, threats]
  cases v.result? <;> rfl

theorem score_entry (v : Visit) : v.entry.score = (v.result?.map AnalysisResult.score).getD 0 := by
  rw [FileEntry.score, result?_entry]
  cases v.result? <;> rfl

end Visit

namespace Analysis

open Act

/-- Files visited in turn. Between two analyses a batch prints, and does nothing else. -/
inductive InTurn (config : Value) : Host → List String → List Visit → Host → Prop
  | nil {h : Host} : InTurn config h [] [] h
  | cons {path : String} {paths : List String} {visits : List Visit} {h h₁ h₂ : Host} {said said' : String}
      {o : Except Failure AnalysisResult} (ho : (analyzeWith config path).outcome { h with printed := said } = (o, h₁))
      (hr : InTurn config { h₁ with printed := said' } paths visits h₂) :
      InTurn config h (path :: paths) (⟨path, { h with printed := said }, o⟩ :: visits) h₂

namespace InTurn

variable {config : Value} {h h' : Host} {paths : List String} {visits : List Visit}

theorem paths_eq (hv : InTurn config h paths visits h') : visits.map Visit.path = paths := by
  induction hv with
  | nil => rfl
  | cons _ _ ih => rw [List.map_cons, ih]

theorem analysed (hv : InTurn config h paths visits h') :
    ∀ v ∈ visits, ∃ h₁, Analysed config v.path v.host v.outcome h₁ := by
  induction hv with
  | nil => simp
  | @cons path _ _ h h₁ _ said _ _ ho _ ih =>
    refine List.forall_mem_cons.mpr ⟨⟨h₁, ?_⟩, ih⟩
    have ha := Analysis.analysed config path { h with printed := said }
    rw [ho] at ha
    exact ha

end InTurn

/-- What came of an analysis makes the entry, and what it did to the host stays done. -/
theorem after_entryOf {config : Value} {path : String} {h h₁ : Host} {o : Except Failure AnalysisResult}
    (ho : (analyzeWith config path).outcome h = (o, h₁)) :
    ∃ said, Host.after (entryOf config path) h = (Visit.entry ⟨path, h, o⟩, { h₁ with printed := said }) := by
  have htry : Host.after (attempt (analyzeWith config path)) h = (o, h₁) := ho
  rw [entryOf, Host.after_bind, htry]
  cases o with
  | error e => exact ⟨_, rfl⟩
  | ok r =>
    by_cases hs : r.ending = .skipped
    · exact ⟨h₁.printed, by simp [hs, Visit.entry, Host.after_pure]⟩
    · exact ⟨h₁.printed, by simp [hs, Visit.entry, Host.after_pure]⟩

/-- A batch visits its files in turn and keeps one entry of each visit. -/
theorem inTurn_entriesFrom (config : Value) (n total : Nat) (paths : List String) (h : Host) :
    ∃ visits h', InTurn config h paths visits h' ∧
      Host.after (entriesFrom config n total paths) h = (visits.map Visit.entry, h') := by
  induction paths generalizing n h with
  | nil => exact ⟨[], h, .nil, rfl⟩
  | cons path rest ih =>
    -- the entry is made on the host with the announcement printed, and the rest goes on from what the entry leaves
    let said := h.printed ++ ("[INFO] Analyzing file " ++ toString n ++ "/" ++ toString total ++ ": " ++ path) ++ "\n"
    obtain ⟨o, h₁, ho⟩ : ∃ o h₁, (analyzeWith config path).outcome { h with printed := said } = (o, h₁) := ⟨_, _, rfl⟩
    obtain ⟨said', hentry⟩ := after_entryOf ho
    obtain ⟨visits, h₂, hv, hrest⟩ := ih (n + 1) { h₁ with printed := said' }
    refine ⟨_, h₂, .cons ho hv, ?_⟩
    have hrun : Host.after (entriesFrom config n total (path :: rest)) h =
        let e := Host.after (entryOf config path) { h with printed := said }
        let es := Host.after (entriesFrom config (n + 1) total rest) e.2
        (e.1 :: es.1, es.2) := rfl
    simp only [hrun, hentry, hrest, List.map_cons]

end Analysis

/-! ## The overall risk -/

namespace Batch

theorem threats_entries (visits : List Visit) :
    threats (visits.map Visit.entry) = visits.flatMap fun v => v.threats.map (Threat.tagged v.path) := by
  rw [threats, List.flatMap_map]
  exact congrArg (visits.flatMap ·) (funext Visit.threats_entry)

theorem exists_severity {visits : List Visit} {t : Value} (ht : t ∈ threats (visits.map Visit.entry)) :
    ∃ s, Severity.ofFinding t = .ok s := by
  rw [threats_entries] at ht
  obtain ⟨v, -, ht⟩ := List.mem_flatMap.mp ht
  obtain ⟨t, -, rfl⟩ := List.mem_map.mp ht
  exact ⟨t.kind.severity, Threat.ofFinding_tagged v.path t⟩

theorem ofEntries_eq_ok {entries : List FileEntry} {b : Batch} : ofEntries entries = .ok b ↔
    Risk.assess (.list (threats entries)) = .ok b.overall ∧ b.entries = entries ∧ b.average = averageOf entries := by
  obtain ⟨es, k, a⟩ := b
  unfold ofEntries
  rw [Checked.bind_eq_ok]
  constructor
  · rintro ⟨k', hk, h⟩
    cases Checked.pure_eq_ok.mp h
    exact ⟨hk, rfl, rfl⟩
  · rintro ⟨hk, he, ha⟩
    dsimp only at he ha
    subst he ha
    exact ⟨k, hk, rfl⟩

theorem exists_ofEntries (visits : List Visit) : ∃ b, ofEntries (visits.map Visit.entry) = .ok b := by
  obtain ⟨k, hk⟩ := Risk.exists_assess fun _ => exists_severity
  exact ⟨⟨_, k, _⟩, ofEntries_eq_ok.mpr ⟨hk, rfl, rfl⟩⟩

end Batch

namespace Analysis

open Act

/-- With a configuration at hand, a batch visits all files and puts their entries together. -/
theorem exists_analyzeMany {config : Option Value} {c : Value} {h h₁ : Host} (hc : Gives (configOr config) h c h₁)
    (paths : List String) :
    ∃ visits b h', Gives (analyzeMany config paths) h b h' ∧ InTurn c h₁ paths visits h' ∧
      Batch.ofEntries (visits.map Visit.entry) = .ok b := by
  obtain ⟨visits, h', hv, hrun⟩ := inTurn_entriesFrom c 1 paths.length paths h₁
  obtain ⟨b, hb⟩ := Batch.exists_ofEntries visits
  refine ⟨visits, b, h', ?_, hv, hb⟩
  exact gives_bind.mpr ⟨c, h₁, hc, gives_bind.mpr ⟨_, h', gives_always.mpr hrun, gives_valid.mpr ⟨hb, rfl⟩⟩⟩

def announced (path : String) (h : Host) : Host :=
  (Host.after (Host.print ("[INFO] Analyzing file " ++ toString 1 ++ "/" ++ toString 1 ++ ": " ++ path)) h).2

/-- The threats of a batch of one file are those of its analysis. -/
theorem exists_analyzeMany_single {config : Value} {path : String} {h h₁ : Host} {r : AnalysisResult}
    (hg : Gives (analyzeWith config path) (announced path h) r h₁) :
    ∃ b h', Gives (analyzeMany (some config) [path]) h b h' ∧
      Batch.threats b.entries = r.threats.map (Threat.tagged path) := by
  let visit : Visit := ⟨path, announced path h, .ok r⟩
  obtain ⟨said, hentry⟩ := after_entryOf hg
  obtain ⟨b, hb⟩ := Batch.exists_ofEntries [visit]
  have hrun : Host.after (entriesFrom config 1 1 [path]) h =
      ([(Host.after (entryOf config path) (announced path h)).1], (Host.after (entryOf config path) (announced path h)).2) := rfl
  rw [hentry] at hrun
  refine ⟨b, { h₁ with printed := said }, ?_, ?_⟩
  · exact gives_bind.mpr ⟨config, h, rfl, gives_bind.mpr ⟨[visit.entry], _, gives_always.mpr hrun, gives_valid.mpr ⟨hb, rfl⟩⟩⟩
  · obtain ⟨-, hentries, -⟩ := Batch.ofEntries_eq_ok.mp hb
    have hthreats : visit.threats = r.threats := by
      by_cases hs : r.ending = .skipped
      · have ha := Analysis.analysed config path (announced path h)
        rw [hg] at ha
        simp [visit, Visit.threats, Visit.result?, hs, threats_of_skipped ha hs]
      · simp [visit, Visit.threats, Visit.result?, hs]
    rw [hentries, Batch.threats_entries, List.flatMap_singleton, hthreats]

end Analysis

/-! ## The record of a batch -/

namespace BatchRecord

def recordsIn (batch : Value) : List Value := findingsAt batch "file_results"

def succeeded (record : Value) : Bool :=
  match record.field? "success" with
  | some (.bool b) => b
  | _ => false

def resultIn (record : Value) : Value := (record.field? "result").getD .null

def threatsIn (record : Value) : List Value :=
  if succeeded record then findingsAt (resultIn record) "threats" else []

theorem succeeded_toValue (e : FileEntry) : succeeded e.toValue = e.success := by
  obtain ⟨path, r | r | message⟩ := e <;> rfl

theorem threatsIn_toValue (e : FileEntry) : threatsIn e.toValue = e.threats := by
  obtain ⟨path, r | r | message⟩ := e <;> rfl

theorem path_toValue (e : FileEntry) : e.toValue.field? "file_path" = some (.str e.path) := by
  obtain ⟨path, r | r | message⟩ := e <;> rfl

/-- The record is that of a visit: it names the file, says whether there is a result, and its threats are those of the
result, each marked with the file. -/
structure RecordOf (v : Visit) (record : Value) : Prop where
  path : record.field? "file_path" = some (.str v.path)
  success : succeeded record = v.result?.isSome
  threats : threatsIn record = v.threats.map (Threat.tagged v.path)
  source : ∀ t ∈ threatsIn record, t.field? "source_file" = some (.str v.path)

theorem recordOf_entry (v : Visit) : RecordOf v v.entry.toValue where
  path := by rw [path_toValue, Visit.path_entry]
  success := by rw [succeeded_toValue, Visit.success_entry]
  threats := by rw [threatsIn_toValue, Visit.threats_entry]
  source := by
    rw [threatsIn_toValue, Visit.threats_entry]
    intro t ht
    obtain ⟨t, -, rfl⟩ := List.mem_map.mp ht
    exact Threat.field?_tagged v.path t

/-- The record of a batch accounts for visits to files: one record of each visit in turn, the numbers of files, and all
threats of the files that succeeded. -/
structure Accounted (paths : List String) (visits : List Visit) (batch : Value) : Prop where
  results : batch.field? "file_results" = some (.list (recordsIn batch))
  named : (recordsIn batch).map (·.field? "file_path") = paths.map fun path => some (.str path)
  records : List.Forall₂ RecordOf visits (recordsIn batch)
  total : batch.field? "files_analyzed" = some (.int paths.length)
  successful : batch.field? "files_successful" = some (.int ((recordsIn batch).countP succeeded))
  failed : batch.field? "files_failed" = some (.int ((recordsIn batch).countP (!succeeded ·)))
  sum : (recordsIn batch).countP succeeded + (recordsIn batch).countP (!succeeded ·) = paths.length
  threats : batch.field? "aggregated_threats" = some (.list ((recordsIn batch).flatMap threatsIn))
  count : (batch.field? "overall_risk").bind (·.field? "threat_count") =
    some (.int ((recordsIn batch).flatMap threatsIn).length)
  summary : batch.field? "summary" = some (.dict [("total_files", .int paths.length),
    ("successful", .int ((recordsIn batch).countP succeeded)), ("failed", .int ((recordsIn batch).countP (!succeeded ·))),
    ("total_threats", .int ((recordsIn batch).flatMap threatsIn).length)])

theorem recordsIn_toValue (b : Batch) : recordsIn b.toValue = b.entries.map FileEntry.toValue := rfl

theorem countP_succeeded (entries : List FileEntry) :
    (entries.map FileEntry.toValue).countP succeeded = (Batch.successful entries).length := by
  rw [List.countP_map, Batch.successful, ← List.countP_eq_length_filter]
  exact congrArg (entries.countP ·) (funext succeeded_toValue)

theorem flatMap_threatsIn (entries : List FileEntry) :
    (entries.map FileEntry.toValue).flatMap threatsIn = Batch.threats entries := by
  rw [List.flatMap_map, Batch.threats]
  exact congrArg (entries.flatMap ·) (funext threatsIn_toValue)

/-- Every record says either that the file succeeded or that it did not. -/
theorem countP_succeeded_add (records : List Value) :
    records.countP succeeded + records.countP (!succeeded ·) = records.length := by
  rw [List.length_eq_countP_add_countP succeeded]
  simp

theorem accounted_toValue {paths : List String} {visits : List Visit} {b : Batch} (hp : visits.map Visit.path = paths)
    (hb : Batch.ofEntries (visits.map Visit.entry) = .ok b) : Accounted paths visits b.toValue := by
  obtain ⟨hk, he, -⟩ := Batch.ofEntries_eq_ok.mp hb
  obtain ⟨t, ht, -⟩ := Risk.count_of_assess hk
  have hcount : b.overall.count = (Batch.threats b.entries).length := by rw [ht, he, Risk.ofTally]
  have hlen : b.entries.length = paths.length := by rw [he, ← hp, List.length_map, List.length_map]
  have hdone := countP_succeeded b.entries
  have hsum := countP_succeeded_add (b.entries.map FileEntry.toValue)
  rw [List.length_map, hlen] at hsum
  -- the record states the failures as a difference of the other two numbers
  have hfailed : (b.entries.length : Int) - (Batch.successful b.entries).length =
      (b.entries.map FileEntry.toValue).countP (!succeeded ·) := by omega
  have hfound := flatMap_threatsIn b.entries
  refine { results := rfl, named := ?_, records := ?_, total := ?_, successful := ?_, failed := ?_, sum := ?_,
           threats := ?_, count := ?_, summary := ?_ }
  · rw [recordsIn_toValue, ← hp, he, List.map_map, List.map_map, List.map_map]
    exact List.map_congr_left fun v _ => (recordOf_entry v).path
  · rw [recordsIn_toValue, he, List.map_map, List.forall₂_map_right_iff]
    exact List.forall₂_same.mpr fun v _ => recordOf_entry v
  · rw [← hlen]
    rfl
  · rw [recordsIn_toValue, hdone]
    rfl
  · rw [recordsIn_toValue, ← hfailed]
    rfl
  · exact hsum
  · rw [recordsIn_toValue, hfound]
    rfl
  · rw [recordsIn_toValue, hfound, ← hcount]
    rfl
  · rw [recordsIn_toValue, hfound, hdone, ← hfailed, ← hlen]
    rfl

end BatchRecord

namespace Analysis

open Act BatchRecord

/-- With a configuration at hand, a batch always comes to a record, and the record accounts for every file that was asked
for, whatever came of its analysis. -/
theorem record_accounts_for_every_path {config : Option Value} {c : Value} {h h₁ : Host}
    (hc : Gives (configOr config) h c h₁) (paths : List String) :
    ∃ visits b h', Gives (analyzeMany config paths) h b h' ∧ InTurn c h₁ paths visits h' ∧
      Accounted paths visits b.toValue := by
  obtain ⟨visits, b, h', hg, hv, hb⟩ := exists_analyzeMany hc paths
  exact ⟨visits, b, h', hg, hv, accounted_toValue hv.paths_eq hb⟩

/-- A host with some files of source text, whose parser refuses every text and which can run nothing. -/
def refusingHost (files : List (String × String)) : Host where
  disk := ⟨files.map fun f => (Disk.workPlace ++ [f.1], .file (.text f.2) none)⟩
  now := ⟨2024, 1, 2, 3, 4, 5, 0⟩
  parser := fun text => ⟨none, some ⟨"SyntaxError", "invalid syntax", some 1, some 5, some text⟩, none⟩
  loader := fun _ => .ok .null
  goCompiler := ⟨false, .timedOut⟩
  javaCompiler := ⟨false, .timedOut⟩
  runs := fun _ => ⟨0, "", "", [], false, none, false, .ofRatio false 0 1⟩
  started := 0
  draws := fun _ => 0
  drawn := 0
  named := 0
  canRemove := true
  printed := ""

/-- Three files of which one breaks off, one has no code and one is in no known language. -/
theorem three_files_accounted :
    let h := refusingHost [("a.py", "def (\n"), ("b.py", "# empty\n"), ("c.txt", "text\n")]
    Gives (configOr (some (.dict []))) h (.dict []) h ∧
    ∃ visits b h', Gives (analyzeMany (some (.dict [])) ["a.py", "b.py", "c.txt"]) h b h' ∧
      InTurn (.dict []) h ["a.py", "b.py", "c.txt"] visits h' ∧
      Accounted ["a.py", "b.py", "c.txt"] visits b.toValue :=
  ⟨gives_pure.mpr ⟨rfl, rfl⟩, record_accounts_for_every_path (gives_pure.mpr ⟨rfl, rfl⟩) _⟩

end Analysis
end ThreatScan
