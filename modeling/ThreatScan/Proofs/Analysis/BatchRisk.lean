import ThreatScan.Proofs.Analysis.Batch
import ThreatScan.Proofs.Decimal.Rounding
/-!
The risk of a batch against the risks of its files.

A result that carries a risk carries the one of its own threats (`assessed_of_analysed`), also if the analysis broke off
later: the steps before the assessment leave the risk open, and those after it leave threats and risk alone. The threats of
a file are among those of the batch, and a score grows with its threats, so no file scores more than the batch
(`score_le_scoreOf`). Then neither does the mean of the files, and rounding does not lead past the score. `Dominates` puts
this together for the record of a batch.
-/
namespace ThreatScan

/-! ## The risk of a file -/

/-- A risk in the result is the one of its threats. -/
def AnalysisResult.Assessed (r : AnalysisResult) : Prop :=
  ∀ k ∈ r.risk, Risk.assess (.list (r.threats.map Threat.toValue)) = .ok k

namespace Analysis

open Act AnalysisResult

section Steps
variable {s : Settings} {step : Step} {r r' : AnalysisResult} {h h' : Host}

theorem assessed_of_mem_stepsAfterRisk (hm : step ∈ stepsAfterRisk s) (hg : Gives (step r) h r' h') (hr : r.Assessed) :
    r'.Assessed := by
  obtain ⟨reports, rfl⟩ := adds_after_risk hm hg
  exact hr

/-- Before the assessment nothing is assessed and nothing is marked. -/
def Open (r : AnalysisResult) : Prop := r.risk = none ∧ r.mark = none

theorem Open.assessed (hr : Open r) : r.Assessed := by
  intro k hk
  rw [hr.1] at hk
  cases hk

theorem open_of_mem_stepsBeforeRisk (hm : step ∈ stepsBeforeRisk s) (hr : Open r) (hg : Gives (step r) h r' h') :
    Open r' := by
  obtain ⟨_, _, _, _, rfl⟩ := adds_before_risk hm hg
  exact hr

theorem assessed_of_riskStep (hr : Open r) (hg : Gives (riskStep r) h r' h') : r'.Assessed := by
  obtain ⟨k, hk, rfl⟩ := adds_riskStep hg
  rw [threatValues, hr.2] at hk
  intro k' hk'
  cases hk'
  exact hk

end Steps

variable {s : Settings} {config : Value} {path language : String} {r : AnalysisResult} {h h' : Host} {e : Failure}

theorem open_of_passes (hp : Passes (stepsBeforeRisk s) (.start path language) h r h') : Open r :=
  hp.invariant (fun _ hm _ _ _ _ => open_of_mem_stepsBeforeRisk hm) ⟨rfl, rfl⟩

theorem assessed_of_passes (hp : Passes (steps s) (.start path language) h r h') : r.Assessed := by
  rw [steps_eq_append] at hp
  obtain ⟨r₁, h₁, hbefore, hp⟩ := hp.split
  cases hp with
  | cons hg hafter =>
    have hrisk := assessed_of_riskStep (open_of_passes hbefore) hg
    exact hafter.invariant (fun _ hm _ _ _ _ ha hg => assessed_of_mem_stepsAfterRisk hm hg ha) hrisk

theorem assessed_of_breaks (hb : Breaks (steps s) (.start path language) h r e h') : r.Assessed := by
  rw [steps_eq_append] at hb
  rcases hb.split with hbefore | ⟨r₁, h₁, hbefore, hb⟩
  · -- no risk has been assessed yet
    exact Open.assessed (hbefore.invariant (fun _ hm _ _ _ _ => open_of_mem_stepsBeforeRisk hm) ⟨rfl, rfl⟩)
  · have hopen := open_of_passes hbefore
    cases hb with
    | here hf => exact hopen.assessed
    | later hg hafter =>
      have hrisk := assessed_of_riskStep hopen hg
      exact hafter.invariant (fun _ hm _ _ _ _ ha hg => assessed_of_mem_stepsAfterRisk hm hg ha) hrisk

theorem assessed_of_analysed (ha : Analysed config path h (.ok r) h') : r.Assessed := by
  cases ha with
  | skipped hc => exact Open.assessed ⟨rfl, rfl⟩
  | broken hb hr =>
    have hr := assessed_of_breaks hr
    exact hr
  | completed hb hr => exact assessed_of_passes hr

end Analysis

/-! ## The risk of a batch -/

open Analysis Act BatchRecord

/-- A result scores no more than any tally that counts its threats. -/
theorem AnalysisResult.Assessed.score_le {r : AnalysisResult} (hr : r.Assessed) {t : Tally}
    (ht : ∀ s, (r.threats.map Threat.kind).countP (fun k => k.severity == s) ≤ t.count s) : r.score ≤ Risk.scoreOf t := by
  cases hk : r.risk with
  | none => simp [score, hk]
  | some k =>
    obtain ⟨u, hu, hcount⟩ := Threat.assess_toValue r.threats
    have hku : k = Risk.ofTally u r.threats.length := Except.ok.inj ((hr k hk).symm.trans hu)
    have hscore : r.score = Risk.scoreOf u := by simp [score, hk, hku, Risk.ofTally]
    rw [hscore]
    exact Risk.scoreOf_mono (Tally.le_of_count fun s => (hcount s).trans_le (ht s))

theorem Visit.score_le_scoreOf {config : Value} {v : Visit} {h' : Host} (ha : Analysed config v.path v.host v.outcome h')
    {t : Tally} (ht : ∀ s, v.entry.threats.countP (Tally.states s) ≤ t.count s) : v.entry.score ≤ Risk.scoreOf t := by
  rw [score_entry]
  cases hr : v.result? with
  | none => exact Nat.zero_le _
  | some r =>
    rw [outcome_of_result? hr] at ha
    refine (assessed_of_analysed ha).score_le fun s => ?_
    have hthreats : v.threats = r.threats := by simp [threats, hr]
    rw [← hthreats, ← Threat.countP_states_map (Threat.states_tagged s v.path), ← threats_entry]
    exact ht s

namespace BatchRecord

def scoreIn (record : Value) : Int :=
  match ((resultIn record).field? "risk_assessment").bind (·.field? "risk_score") with
  | some (.int n) => n
  | _ => 0

/-- The exact mean of the scores of the files that succeeded; without such files, zero. -/
def meanScore (batch : Value) : ℚ :=
  (((recordsIn batch).filter succeeded).map scoreIn).sum / (((recordsIn batch).filter succeeded).length : ℚ)

def overallField (batch : Value) (key : String) : Option Value := (batch.field? "overall_risk").bind (·.field? key)

theorem scoreIn_toValue {e : FileEntry} (he : e.success = true) : scoreIn e.toValue = e.score := by
  obtain ⟨path, r | r | message⟩ := e
  · have hresult : resultIn (FileEntry.toValue ⟨path, .done r⟩) = r.toValue := rfl
    have hrisk : r.toValue.field? "risk_assessment" = some r.riskValue := rfl
    have hscore : FileEntry.score ⟨path, .done r⟩ = r.score := rfl
    rw [scoreIn, hresult, hrisk, hscore]
    unfold AnalysisResult.riskValue AnalysisResult.score
    cases r.risk <;> rfl
  · cases he
  · cases he

/-- The score of a batch bounds the scores of its files: it is the score of all threats together, at most 100, and neither a
file that succeeded nor the mean of these files, exact or as the record states it, comes to more. -/
structure Dominates (score : Nat) (batch : Value) : Prop where
  stated : overallField batch "risk_score" = some (.int score)
  assessed : ∃ found k, batch.field? "aggregated_threats" = some found ∧ Risk.assess found = .ok k ∧ k.score = score
  le_max : score ≤ 100
  files : ∀ record ∈ recordsIn batch, succeeded record = true → scoreIn record ≤ score
  mean : meanScore batch ≤ score
  average : ∃ v q, overallField batch "average_risk_score" = some v ∧ v.size? = some (Size.ofRat q) ∧ q ≤ score

theorem meanScore_toValue (b : Batch) : meanScore b.toValue =
    (((Batch.successful b.entries).map FileEntry.score).sum : ℚ) / (Batch.successful b.entries).length := by
  have hdone : (recordsIn b.toValue).filter succeeded = (Batch.successful b.entries).map FileEntry.toValue := by
    rw [recordsIn_toValue, List.filter_map, Batch.successful]
    exact congrArg (fun p => (b.entries.filter p).map FileEntry.toValue) (funext succeeded_toValue)
  have hscores : ((Batch.successful b.entries).map FileEntry.toValue).map scoreIn =
      ((Batch.successful b.entries).map FileEntry.score).map Nat.cast := by
    rw [List.map_map, List.map_map]
    exact List.map_congr_left fun e he => scoreIn_toValue (List.mem_filter.mp he).2
  rw [meanScore, hdone, hscores, List.length_map, ← Nat.cast_list_sum, Int.cast_natCast]

theorem sum_score_le {entries : List FileEntry} {score : Nat} (h : ∀ e ∈ entries, e.score ≤ score) :
    (entries.map FileEntry.score).sum ≤ score * entries.length := by
  have hsum := List.sum_le_card_nsmul (entries.map FileEntry.score) score (List.forall_mem_map.mpr h)
  rwa [List.length_map, smul_eq_mul, Nat.mul_comm] at hsum

theorem average_le {entries : List FileEntry} {score : Nat} (hmax : score ≤ 100)
    (h : ∀ e ∈ Batch.successful entries, e.score ≤ score) :
    ∃ q : ℚ, (((Batch.averageOf entries).map Value.float).getD (.int 0)).size? = some (Size.ofRat q) ∧ q ≤ score := by
  unfold Batch.averageOf
  dsimp only
  split
  · exact ⟨0, by simp [Value.size?], by positivity⟩
  · rw [← List.foldl_map (f := FileEntry.score) (g := fun n k => n + k), ← List.sum_eq_foldl]
    exact Binary64.exists_size_ofRatio_le (sum_score_le h) (by omega)

theorem sublist_threats {visits : List Visit} {v : Visit} (hv : v ∈ visits) :
    v.entry.threats.Sublist (Batch.threats (visits.map Visit.entry)) := by
  rw [Batch.threats, List.flatMap_def]
  exact List.sublist_flatten_of_mem (List.mem_map_of_mem (List.mem_map_of_mem hv))

theorem dominates_toValue {visits : List Visit} {b : Batch} (hb : Batch.ofEntries (visits.map Visit.entry) = .ok b)
    (hmax : b.overall.score ≤ 100) (hle : ∀ v ∈ visits, v.entry.score ≤ b.overall.score) :
    Dominates b.overall.score b.toValue := by
  obtain ⟨hk, he, ha⟩ := Batch.ofEntries_eq_ok.mp hb
  have hentries : ∀ e ∈ b.entries, e.score ≤ b.overall.score := by
    rw [he]
    exact List.forall_mem_map.mpr hle
  have hdone : ∀ e ∈ Batch.successful b.entries, e.score ≤ b.overall.score :=
    fun e hm => hentries e (List.mem_filter.mp hm).1
  refine { stated := rfl, assessed := ?_, le_max := hmax, files := ?_, mean := ?_, average := ?_ }
  · rw [← he] at hk
    exact ⟨_, _, rfl, hk, rfl⟩
  · rw [recordsIn_toValue]
    intro record hm hs
    obtain ⟨e, he, rfl⟩ := List.mem_map.mp hm
    rw [scoreIn_toValue ((succeeded_toValue e).symm.trans hs)]
    exact_mod_cast hentries e he
  · rw [meanScore_toValue]
    refine div_le_of_le_mul₀ (by positivity) (by positivity) ?_
    exact_mod_cast sum_score_le hdone
  · obtain ⟨q, hq, hle⟩ := average_le hmax hdone
    rw [← he] at ha
    exact ⟨_, q, rfl, by rw [ha]; exact hq, hle⟩

end BatchRecord

namespace Analysis

/-- With a configuration at hand, the score of a batch is at least that of every file that succeeded, and so at least their
mean. -/
theorem batch_score_dominates {config : Option Value} {c : Value} {h h₁ : Host} (hc : Gives (configOr config) h c h₁)
    (paths : List String) :
    ∃ b h' score, Gives (analyzeMany config paths) h b h' ∧ Dominates score b.toValue := by
  obtain ⟨visits, b, h', hg, hv, hb⟩ := exists_analyzeMany hc paths
  obtain ⟨t, ht, hcount⟩ := Risk.count_of_assess (Batch.ofEntries_eq_ok.mp hb).1
  have hscore : b.overall.score = Risk.scoreOf t := by rw [ht, Risk.ofTally]
  refine ⟨b, h', b.overall.score, hg, dominates_toValue hb ?_ fun v hm => ?_⟩
  · rw [hscore]
    exact Risk.scoreOf_le t
  · obtain ⟨h₂, ha⟩ := hv.analysed v hm
    rw [hscore]
    refine v.score_le_scoreOf ha fun s => ?_
    rw [hcount]
    exact (sublist_threats hm).countP_le

/-- Three files of which one breaks off before its risk is assessed. -/
theorem three_files_dominated :
    let h := refusingHost [("a.py", "def (\n"), ("b.py", "# empty\n"), ("c.go", "package main\n")]
    Gives (configOr (some (.dict []))) h (.dict []) h ∧
    ∃ b h' score, Gives (analyzeMany (some (.dict [])) ["a.py", "b.py", "c.go"]) h b h' ∧ Dominates score b.toValue :=
  ⟨gives_pure.mpr ⟨rfl, rfl⟩, batch_score_dominates (gives_pure.mpr ⟨rfl, rfl⟩) _⟩

end Analysis
end ThreatScan
