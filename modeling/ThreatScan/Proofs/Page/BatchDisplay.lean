import ThreatScan.Analysis.Batch
import ThreatScan.Proofs.Page.Display
/-!
The page on a batch up to its reports.

Every part of the page on a batch displays, whatever the batch: the summary, the overall risk, the chart, the table of all
threats and what came of each file. The parts look up fields of records, and the records of a batch hold these fields in the
kinds that the parts ask for. So the page always comes to its reports (`leadsTo_showBatch`).
-/
namespace ThreatScan.Page

theorem displays_showSummary (fields : List (String × Value)) : Displays (showSummary (.dict fields)) := by
  apply Displays.bind' (.record _)
  intro _
  apply Displays.get_bind
  intro total
  apply Displays.bind' (.record _)
  intro _
  apply Displays.get_bind
  intro successful
  apply Displays.bind' (.record _)
  intro _
  apply Displays.get_bind
  intro failed
  apply Displays.bind' (.record _)
  intro _
  apply Displays.get_bind
  intro threats
  exact .record _

theorem displays_showOverall (b : Batch) : Displays (showOverall b.overallValue) := by
  have haverage : b.overallValue.get "average_risk_score" (.int 0) = .ok ((b.average.map Value.float).getD (.int 0)) := rfl
  have hlevel : b.overallValue.get "risk_level" (.str "low") = .ok (.str b.overall.level.name) := rfl
  obtain ⟨text, htext⟩ : ∃ text, averageText ((b.average.map Value.float).getD (.int 0)) = .ok text := by
    cases b.average with
    | none => exact ⟨_, rfl⟩
    | some x => exact ⟨_, rfl⟩
  obtain ⟨level, hword⟩ : ∃ level, batchLevel (.str b.overall.level.name) = .ok level := by
    cases b.overall.level <;> exact ⟨_, rfl⟩
  apply Displays.bind' (.record _)
  intro _
  apply Displays.bind' (.record _)
  intro _
  refine .bind' (.within _ (.valid_bind haverage (.valid_bind htext (.record _)))) fun _ => ?_
  exact .within _ (.valid_bind hlevel (.valid_bind hword (.record _)))

/-- The record of a threat, marked with a file or not. -/
def IsThreat (t : Value) : Prop := ∃ u : Threat, t = u.toValue ∨ ∃ file, t = u.tagged file

theorem isThreat_of_mem {r : AnalysisResult} {t : Value} (ht : t ∈ r.threatValues) : IsThreat t := by
  unfold AnalysisResult.threatValues at ht
  split at ht
  · next file _ =>
    obtain ⟨u, -, rfl⟩ := List.mem_map.mp ht
    exact ⟨u, .inr ⟨file, rfl⟩⟩
  · obtain ⟨u, -, rfl⟩ := List.mem_map.mp ht
    exact ⟨u, .inl rfl⟩

theorem IsThreat.exists_row {t : Value} (ht : IsThreat t) : ∃ row, batchRow t = .ok row := by
  obtain ⟨u, rfl | ⟨file, rfl⟩⟩ := ht
  · exact ⟨_, rfl⟩
  · exact ⟨_, rfl⟩

theorem IsThreat.exists_fields {t : Value} (ht : IsThreat t) : ∃ fields, t = .dict fields := by
  obtain ⟨u, rfl | ⟨file, rfl⟩⟩ := ht
  · exact ⟨_, rfl⟩
  · exact ⟨_, rfl⟩

theorem exists_counts {threats : List Value} (ht : ∀ t ∈ threats, IsThreat t) (counts : Counts) :
    ∃ c, threats.foldlM (fun counts r => do
      let v ← r.get "severity" (.str "unknown")
      v.hashable
      return counts.add v) counts = (Except.ok c : Except Fault Counts) := by
  induction threats generalizing counts with
  | nil => exact ⟨counts, rfl⟩
  | cons t rest ih =>
    rw [List.foldlM_cons]
    obtain ⟨u, rfl | ⟨file, rfl⟩⟩ := ht t List.mem_cons_self
    · exact ih (fun t ht' => ht t (List.mem_cons_of_mem _ ht')) _
    · exact ih (fun t ht' => ht t (List.mem_cons_of_mem _ ht')) _

theorem displays_drawChart (d : ChartData) : Displays (drawChart d) := by
  apply Displays.bind' .get'
  intro v
  dsimp only
  cases v.charts.pieProblem with
  | none => exact .record _
  | some problem =>
    apply Displays.bind' (.record _)
    intro _
    exact .ite' (fun _ => .record _) (fun _ => .record _)

theorem displays_showChart {threats : List Value} (ht : ∀ t ∈ threats, IsThreat t) : Displays (showChart (.list threats)) := by
  obtain ⟨counts, hcounts⟩ := exists_counts ht []
  have hdata : (do Counts.ofField "severity" (.str "unknown") (← (Value.list threats).items)) = .ok counts := hcounts
  apply Displays.ite'
  · intro _
    apply Displays.valid_bind hdata
    apply Displays.bind' (.record _)
    intro _
    apply Displays.bind' (.record _)
    intro _
    apply Displays.bind' (.record _)
    intro _
    exact displays_drawChart _
  · intro _
    exact .pure' ()

theorem displays_showAllThreats {threats : List Value} (ht : ∀ t ∈ threats, IsThreat t) :
    Displays (showAllThreats (.list threats)) := by
  apply Displays.ite'
  · intro _
    apply Displays.bind' (.record _)
    intro _
    apply Displays.valid_bind rfl
    apply Displays.bind'
    · apply Displays.mapM
      intro t hmem
      obtain ⟨row, hrow⟩ := (ht t hmem).exists_row
      rw [hrow]
      exact .pure' row
    · intro rows
      exact .record _
  · intro _
    exact .pure' ()

theorem displays_showThreatLine {t : Value} (ht : IsThreat t) : Displays (showThreatLine t) := by
  obtain ⟨fields, rfl⟩ := ht.exists_fields
  apply Displays.get_bind
  intro kind
  apply Displays.get_bind
  intro severity
  exact .record _

theorem onlyAdds_lenientText (file : String) : OnlyAdds (lenientText file) := by
  apply OnlyAdds.bind' .get'
  intro v
  cases v.host.disk.read file with
  | ok c => exact .pure' _
  | error e => exact .fail _

theorem onlyAdds_showSnippets (source threats : Value) (context limit : Int) :
    OnlyAdds (showSnippets source threats context limit) := by
  apply OnlyAdds.bind' (.valid _)
  intro shown
  cases shown with
  | notice text => exact .record _
  | markup text => exact .record _

/-- The snippets of a file may not be at hand, which is said in their place. -/
theorem displays_showFileSnippets (file : String) (threats : Value) : Displays (showFileSnippets file threats) := by
  apply Displays.bind'
  · apply Displays.attempt
    exact .bind' (onlyAdds_lenientText file) fun source => onlyAdds_showSnippets _ _ _ _
  · intro result
    cases result with
    | ok _ => exact .pure' ()
    | error e => exact .record _

theorem displays_showFileResult (file : String) (r : AnalysisResult) : Displays (showFileResult file r.toValue) := by
  have hrisk : r.toValue.get "risk_assessment" (.dict []) = .ok r.riskValue := rfl
  have hthreats : r.toValue.get "threats" (.list []) = .ok (.list r.threatValues) := rfl
  obtain ⟨fields, hfields⟩ : ∃ fields, r.riskValue = .dict fields := by
    unfold AnalysisResult.riskValue
    cases r.risk <;> exact ⟨_, rfl⟩
  apply Displays.valid_bind hrisk
  apply Displays.valid_bind hthreats
  rw [hfields]
  apply Displays.get_bind
  intro score
  apply Displays.bind' (.record _)
  intro _
  apply Displays.valid_bind rfl
  apply Displays.bind' (.record _)
  intro _
  apply Displays.ite'
  · intro _
    apply Displays.valid_bind rfl
    apply Displays.bind'
    · exact .forM fun t ht => displays_showThreatLine (isThreat_of_mem ht)
    · intro _
      apply Displays.bind' (.record _)
      intro _
      exact .within _ (displays_showFileSnippets file _)
  · intro _
    exact .pure' ()

theorem displays_showFile (e : FileEntry) : Displays (showFile e.toValue) := by
  have hpath : (do path (← e.toValue.get "file_path" (.str "未知"))) = .ok e.path := by
    obtain ⟨path, r | r | message⟩ := e <;> rfl
  apply Displays.valid_bind hpath
  apply Displays.bind' (.record _)
  intro _
  apply Displays.within
  -- only a file that succeeded has its result shown, the others say why they have none
  obtain ⟨path, r | r | message⟩ := e
  · apply Displays.valid_bind rfl
    apply Displays.valid_bind rfl
    exact displays_showFileResult path r
  · apply Displays.valid_bind rfl
    apply Displays.valid_bind rfl
    exact .record _
  · apply Displays.valid_bind rfl
    apply Displays.valid_bind rfl
    exact .record _

theorem exists_successfulFiles (b : Batch) : ∃ files, successfulFiles b.toValue = .ok files := by
  have hfiles : successfulFiles b.toValue = (b.entries.map FileEntry.toValue).filterM fun file => do
      if (← file.get "success" .null).truthy then return (← file.get "result" .null).truthy else return false := rfl
  rw [hfiles]
  apply Checked.exists_filterM_eq_ok
  intro file hfile
  obtain ⟨⟨path, r | r | message⟩, -, rfl⟩ := List.mem_map.mp hfile
  · exact ⟨_, rfl⟩
  · exact ⟨_, rfl⟩
  · exact ⟨_, rfl⟩

theorem isThreat_of_mem_threats {entries : List FileEntry} {t : Value} (ht : t ∈ Batch.threats entries) : IsThreat t := by
  obtain ⟨e, -, ht⟩ := List.mem_flatMap.mp ht
  obtain ⟨path, r | r | message⟩ := e
  · exact isThreat_of_mem (r := r) ht
  · cases ht
  · cases ht

/-- Before its reports, the page on a batch only displays. -/
theorem leadsTo_showBatch (b : Batch) (config : Value) :
    LeadsTo (showBatch b.toValue config) (showBatchReports b.toValue config) := by
  obtain ⟨files, hfiles⟩ := exists_successfulFiles b
  have hthreats : ∀ t ∈ Batch.threats b.entries, IsThreat t := fun _ => isThreat_of_mem_threats
  apply LeadsTo.bind' (.record _)
  intro _
  apply LeadsTo.bind' (.record _)
  intro _
  apply LeadsTo.valid_bind rfl
  apply LeadsTo.valid_bind rfl
  apply LeadsTo.bind' (displays_showSummary _)
  intro _
  apply LeadsTo.valid_bind hfiles
  apply LeadsTo.bind' (displays_showOverall b)
  intro _
  apply LeadsTo.valid_bind rfl
  apply LeadsTo.bind' (displays_showChart hthreats)
  intro _
  apply LeadsTo.bind' (displays_showAllThreats hthreats)
  intro _
  apply LeadsTo.bind' (.record _)
  intro _
  apply LeadsTo.valid_bind rfl
  apply LeadsTo.bind'
  · apply Displays.forM
    intro file hfile
    obtain ⟨e, -, rfl⟩ := List.mem_map.mp hfile
    exact displays_showFile e
  · intro _
    apply LeadsTo.bind' (.record _)
    intro _
    apply LeadsTo.bind' (.record _)
    intro _
    exact .self _

end ThreatScan.Page
