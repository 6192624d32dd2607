import ThreatScan.Proofs.Analysis.BatchRisk
import ThreatScan.Proofs.Threat.Monotone
/-!
The threats and the score that an analysis comes to.

`judgement` is the part of an analysis that finds threats: static and dynamic results, put together and looked through. The
result of an analysis has the threats of its judgement, and none if that fails (`exists_gives_analyzeWith`); what comes after
the judgement cannot take a threat away. The score is always that of the threats in the result.
-/
namespace ThreatScan.Analysis

open Act AnalysisResult

def judged (static dynamic : Value) : Except Fault (List Threat) := do
  let a ← Aggregate.ofResults static dynamic
  Threat.identify a.toValue

def judgement (s : Settings) (path language : String) : Act (List Threat) := do
  let static ← staticResults s path language
  let dynamic ← dynamicResults s path language
  Act.valid (judged static dynamic)

def found {ε : Type} : Except ε (List Threat) → List Threat
  | .ok ts => ts
  | .error _ => []

theorem judged_eq_ok {static dynamic : Value} {ts : List Threat} :
    judged static dynamic = .ok ts ↔ ∃ a, Judged static dynamic a ts := by
  unfold judged
  rw [Checked.bind_eq_ok]
  exact exists_congr fun a => ⟨fun h => ⟨h.1, h.2⟩, fun h => ⟨h.aggregated, h.identified⟩⟩

def threatScore (ts : List Threat) : Nat :=
  match Risk.assess (.list (ts.map Threat.toValue)) with
  | .ok k => k.score
  | .error _ => 0

theorem threatScore_mono {ts us : List Threat} (h : (ts.map Threat.kind).Subperm (us.map Threat.kind)) :
    threatScore ts ≤ threatScore us := by
  obtain ⟨k, k', hk, hk', hle, hs, hs', -, -⟩ := Threat.assess_mono h
  have hscore : k.score ≤ k'.score := by
    rw [hs, hs']
    exact Risk.scoreOf_mono hle
  unfold threatScore
  rw [hk, hk']
  exact hscore

theorem threatScore_nil : threatScore [] = 0 := by rfl

theorem threatScore_pos {ts : List Threat} (h : ts ≠ []) : 0 < threatScore ts := by
  obtain ⟨t, ht⟩ := List.exists_mem_of_ne_nil ts h
  obtain ⟨u, hu, hcount⟩ := Threat.assess_toValue ts
  have hpos : 0 < u.count t.kind.severity := by
    rw [hcount, List.countP_pos_iff]
    exact ⟨t.kind, List.mem_map_of_mem ht, beq_self_eq_true _⟩
  have hscore : threatScore ts = Risk.scoreOf u := by rw [threatScore, hu]; rfl
  rw [hscore]
  exact Risk.scoreOf_pos hpos

def Shows (r : AnalysisResult) (ts : List Threat) : Prop := r.threats = ts ∧ r.score = threatScore ts

def said (line : String) (h : Host) : Host := { h with printed := h.printed ++ line ++ "\n" }

theorem outcome_computed {α : Type} (line : String) (x : Except Fault α) (g : α → AnalysisResult) (h : Host) :
    (do say line; return g (← Act.valid x) : Act AnalysisResult).outcome h = (match x with
      | .ok a => .ok (g a)
      | .error f => .error (.fault f), said line h) := by
  cases x <;> rfl

/-! ## After the judgement -/

section After
variable {s : Settings} {r : AnalysisResult} {h : Host}

theorem kept_after_reports (r : AnalysisResult) (h : Host) :
    (Host.after (runSteps (stepsAfterRisk s) r) h).1.threats = r.threats ∧
      (Host.after (runSteps (stepsAfterRisk s) r) h).1.risk = r.risk := by
  let P : AnalysisResult → Prop := fun r' => r'.threats = r.threats ∧ r'.risk = r.risk
  have hstep : ∀ step ∈ stepsAfterRisk s, ∀ r₁ h₁ r₂ h₂, P r₁ → Gives (step r₁) h₁ r₂ h₂ → P r₂ := by
    intro step hm r₁ h₁ r₂ h₂ hr hg
    obtain ⟨reports, rfl⟩ := adds_after_risk hm hg
    exact hr
  rcases passes_or_breaks (stepsAfterRisk s) r h with ⟨r', h', hp, hr⟩ | ⟨r', e, h', hb, hr⟩
  · rw [hr]
    exact hp.invariant hstep ⟨rfl, rfl⟩
  · rw [hr]
    have hP : P r' := hb.invariant hstep ⟨rfl, rfl⟩
    exact hP

theorem gives_riskStep (hm : r.mark = none) (h : Host) :
    ∃ k h', Gives (riskStep r) h { r with risk := some k } h' ∧ threatScore r.threats = k.score := by
  obtain ⟨t, hk, -⟩ := Threat.assess_toValue r.threats
  have hvalues : r.threatValues = r.threats.map Threat.toValue := by rw [threatValues, hm]
  refine ⟨_, said "[INFO] Assessing risk..." h, ?_, by rw [threatScore, hk]⟩
  unfold Gives riskStep
  rw [outcome_computed, hvalues, hk]

theorem shows_after_threats (hm : r.mark = none) (h : Host) :
    Shows (Host.after (runSteps (riskStep :: stepsAfterRisk s) r) h).1 r.threats := by
  obtain ⟨k, h₁, hg, hscore⟩ := gives_riskStep hm h
  rw [after_runSteps_cons, hg]
  dsimp only
  obtain ⟨ht, hr⟩ := kept_after_reports (s := s) { r with risk := some k } h₁
  refine ⟨ht, ?_⟩
  rw [score, hr, hscore]
  rfl

end After

/-! ## The judgement itself -/

structure Bare (r : AnalysisResult) : Prop where
  threats : r.threats = []
  risk : r.risk = none
  mark : r.mark = none

theorem Bare.shows {r : AnalysisResult} (hr : Bare r) (ending : Ending) : Shows { r with ending } [] := by
  refine ⟨hr.threats, ?_⟩
  rw [score, threatScore_nil]
  dsimp only
  rw [hr.risk]
  rfl

theorem shows_after_results {s : Settings} {r : AnalysisResult} (hr : Bare r) (h : Host) :
    Shows (Host.after (runSteps (aggregateStep :: threatStep :: riskStep :: stepsAfterRisk s) r) h).1
      (found (judged r.static r.dynamic)) := by
  rw [after_runSteps_cons, aggregateStep, outcome_computed, judged]
  cases Aggregate.ofResults r.static r.dynamic with
  | error f => exact hr.shows _
  | ok a =>
    dsimp only
    rw [Checked.ok_bind, after_runSteps_cons, threatStep, outcome_computed, aggregatedValue, Option.map_some,
      Option.getD_some]
    cases Threat.identify a.toValue with
    | error f =>
      have hbare : Bare { r with aggregated := some a } := ⟨hr.threats, hr.risk, hr.mark⟩
      exact hbare.shows _
    | ok ts =>
      have hmark : { r with aggregated := some a, threats := ts }.mark = none := hr.mark
      exact shows_after_threats hmark _

/-- Going through the steps comes to the threats of the judgement, or to none if that fails. -/
theorem shows_of_runSteps (s : Settings) (path language : String) (h : Host) :
    Shows (Host.after (runSteps (steps s) (.start path language)) h).1
      (found ((judgement s path language).outcome h).1) := by
  have hstart : Bare (.start path language) := ⟨rfl, rfl, rfl⟩
  rw [steps, after_runSteps_cons, staticStep, judgement, outcome_bind, outcome_bind]
  dsimp only [AnalysisResult.start]
  rcases (staticResults s path language).outcome h with ⟨e | static, h₁⟩
  · exact hstart.shows _
  · have hstatic : Bare { AnalysisResult.start path language with static } := ⟨rfl, rfl, rfl⟩
    have hgives : ∀ r : AnalysisResult, (pure r : Act AnalysisResult).outcome h₁ = (.ok r, h₁) := fun _ => rfl
    simp only [hgives]
    rw [after_runSteps_cons, dynamicStep, outcome_bind, outcome_bind]
    dsimp only
    rcases (dynamicResults s path language).outcome h₁ with ⟨e | dynamic, h₂⟩
    · exact hstatic.shows _
    · have hboth : Bare { AnalysisResult.start path language with static, dynamic } := ⟨rfl, rfl, rfl⟩
      have hfound : found ((Act.valid (judged static dynamic)).outcome h₂).1 = found (judged static dynamic) := by
        cases judged static dynamic <;> rfl
      simp only [hfound]
      exact shows_after_results hboth h₂

/-- The threats of a file: those of its judgement, and none if it has no code. -/
def threatsOf (s : Settings) (path language : String) (h : Host) : List Threat :=
  if isEffectivelyEmpty h.disk path then [] else found ((judgement s path language).outcome h).1

/-- Settings that can be read and a language that is supported make an analysis end with the threats of the file. -/
theorem exists_gives_analyzeWith {config : Value} {s : Settings} {path language : String} {h : Host}
    (hs : Settings.ofConfig config = .ok s) (hl : Language.detect h.disk path = language)
    (hl' : Language.isSupported language = true) :
    ∃ r h', Gives (analyzeWith config path) h r h' ∧ Shows r (threatsOf s path language h) := by
  unfold threatsOf
  cases hc : isEffectivelyEmpty h.disk path with
  | true => exact ⟨_, _, gives_skip config hc, rfl, rfl⟩
  | false => exact ⟨_, _, gives_runSteps ⟨hc, hs, hl, hl'⟩, shows_of_runSteps s path language h⟩

end ThreatScan.Analysis
