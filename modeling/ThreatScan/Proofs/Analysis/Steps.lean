import ThreatScan.Analysis.File
import ThreatScan.Proofs.Host.Act
/-!
How the analysis of a file goes.

For each step there is one lemma on what it adds to the result; everything else stays. `Passes` says that steps succeed one
after another, `Breaks` that they do so up to one that fails. Going through steps is one or the other
(`passes_or_breaks`), and a result that a step left unfinished is that of the steps before it. An analysis that can begin
therefore passes all its steps or breaks off at one of them (`analysed`); all that can keep it from beginning are a file
without code, settings that cannot be read, and a language that is not supported.
-/
namespace ThreatScan.Analysis

open Act

theorem gives_say {line : String} {h : Host} :
    Gives (say line) h () { h with printed := h.printed ++ line ++ "\n" } := gives_always.mpr rfl

/-! ## What a step adds -/

section Steps
variable {s : Settings} {r r' : AnalysisResult} {h h' : Host}

theorem adds_staticStep (hg : Gives (staticStep s r) h r' h') : ∃ v, r' = { r with static := v } := by
  obtain ⟨v, h₁, -, hg⟩ := gives_bind.mp hg
  exact ⟨v, (gives_pure.mp hg).1.symm⟩

theorem adds_dynamicStep (hg : Gives (dynamicStep s r) h r' h') : ∃ v, r' = { r with dynamic := v } := by
  obtain ⟨v, h₁, -, hg⟩ := gives_bind.mp hg
  exact ⟨v, (gives_pure.mp hg).1.symm⟩

theorem adds_aggregateStep (hg : Gives (aggregateStep r) h r' h') :
    ∃ a, Aggregate.ofResults r.static r.dynamic = .ok a ∧ r' = { r with aggregated := some a } := by
  obtain ⟨-, h₁, -, hg⟩ := gives_bind.mp hg
  obtain ⟨a, h₂, ha, hg⟩ := gives_bind.mp hg
  exact ⟨a, (gives_valid.mp ha).1, (gives_pure.mp hg).1.symm⟩

theorem adds_threatStep (hg : Gives (threatStep r) h r' h') :
    ∃ ts, Threat.identify r.aggregatedValue = .ok ts ∧ r' = { r with threats := ts } := by
  obtain ⟨-, h₁, -, hg⟩ := gives_bind.mp hg
  obtain ⟨ts, h₂, hts, hg⟩ := gives_bind.mp hg
  exact ⟨ts, (gives_valid.mp hts).1, (gives_pure.mp hg).1.symm⟩

theorem adds_riskStep (hg : Gives (riskStep r) h r' h') :
    ∃ k, Risk.assess (.list r.threatValues) = .ok k ∧ r' = { r with risk := some k } := by
  obtain ⟨-, h₁, -, hg⟩ := gives_bind.mp hg
  obtain ⟨k, h₂, hk, hg⟩ := gives_bind.mp hg
  exact ⟨k, (gives_valid.mp hk).1, (gives_pure.mp hg).1.symm⟩

theorem adds_saveReport {content ext format : String} (hg : Gives (saveReport s content ext format r) h r' h') :
    ∃ path, r' = { r with reports := r.reports ++ [(format, path)] } := by
  obtain ⟨g, h₁, -, hg⟩ := gives_bind.mp hg
  obtain ⟨dir, h₂, -, hg⟩ := gives_bind.mp hg
  obtain ⟨-, h₃, -, hg⟩ := gives_bind.mp hg
  obtain ⟨path, h₄, -, hg⟩ := gives_bind.mp hg
  exact ⟨path, (gives_pure.mp hg).1.symm⟩

theorem adds_documentStep (hg : Gives (documentStep s r) h r' h') :
    ∃ path, r' = { r with reports := r.reports ++ [("json", path)] } := by
  obtain ⟨-, h₁, -, hg⟩ := gives_bind.mp hg
  obtain ⟨g, h₂, -, hg⟩ := gives_bind.mp hg
  obtain ⟨dir, h₃, -, hg⟩ := gives_bind.mp hg
  obtain ⟨-, h₄, -, hg⟩ := gives_bind.mp hg
  exact adds_saveReport hg

theorem adds_pageStep (hg : Gives (pageStep s r) h r' h') :
    ∃ path, r' = { r with reports := r.reports ++ [("html", path)] } := by
  obtain ⟨g, h₁, -, hg⟩ := gives_bind.mp hg
  obtain ⟨content, h₂, -, hg⟩ := gives_bind.mp hg
  exact adds_saveReport hg

theorem adds_markdownStep (hg : Gives (markdownStep s r) h r' h') :
    ∃ path, r' = { r with reports := r.reports ++ [("markdown", path)] } := by
  obtain ⟨g, h₁, -, hg⟩ := gives_bind.mp hg
  obtain ⟨content, h₂, -, hg⟩ := gives_bind.mp hg
  exact adds_saveReport hg

theorem adds_finalStep (hg : Gives (finalStep r) h r' h') : r' = r := by
  obtain ⟨-, h₁, -, hg⟩ := gives_bind.mp hg
  exact (gives_pure.mp hg).1.symm

end Steps

def stepsBeforeRisk (s : Settings) : List Step := [staticStep s, dynamicStep s, aggregateStep, threatStep]

def stepsAfterRisk (s : Settings) : List Step := [documentStep s, pageStep s, markdownStep s, finalStep]

theorem steps_eq_append (s : Settings) : steps s = stepsBeforeRisk s ++ riskStep :: stepsAfterRisk s := rfl

section Parts
variable {s : Settings} {step : Step} {r r' : AnalysisResult} {h h' : Host}

theorem adds_before_risk (hm : step ∈ stepsBeforeRisk s) (hg : Gives (step r) h r' h') :
    ∃ static dynamic aggregated threats, r' = { r with static, dynamic, aggregated, threats } := by
  simp only [stepsBeforeRisk, List.mem_cons, List.not_mem_nil, or_false] at hm
  rcases hm with rfl | rfl | rfl | rfl
  · obtain ⟨v, rfl⟩ := adds_staticStep hg
    exact ⟨_, _, _, _, rfl⟩
  · obtain ⟨v, rfl⟩ := adds_dynamicStep hg
    exact ⟨_, _, _, _, rfl⟩
  · obtain ⟨a, -, rfl⟩ := adds_aggregateStep hg
    exact ⟨_, _, _, _, rfl⟩
  · obtain ⟨ts, -, rfl⟩ := adds_threatStep hg
    exact ⟨_, _, _, _, rfl⟩

theorem adds_after_risk (hm : step ∈ stepsAfterRisk s) (hg : Gives (step r) h r' h') : ∃ reports, r' = { r with reports } := by
  simp only [stepsAfterRisk, List.mem_cons, List.not_mem_nil, or_false] at hm
  rcases hm with rfl | rfl | rfl | rfl
  · obtain ⟨path, rfl⟩ := adds_documentStep hg
    exact ⟨_, rfl⟩
  · obtain ⟨path, rfl⟩ := adds_pageStep hg
    exact ⟨_, rfl⟩
  · obtain ⟨path, rfl⟩ := adds_markdownStep hg
    exact ⟨_, rfl⟩
  · exact ⟨r.reports, adds_finalStep hg⟩

theorem adds_after_threats (hm : step ∈ riskStep :: stepsAfterRisk s) (hg : Gives (step r) h r' h') :
    ∃ risk reports, r' = { r with risk, reports } := by
  rcases List.mem_cons.mp hm with rfl | hm
  · obtain ⟨k, -, rfl⟩ := adds_riskStep hg
    exact ⟨_, _, rfl⟩
  · obtain ⟨reports, rfl⟩ := adds_after_risk hm hg
    exact ⟨_, _, rfl⟩

/-- No step touches the path, the language, the ending or the mark of a result. -/
theorem frame_of_mem_steps (hm : step ∈ steps s) (hg : Gives (step r) h r' h') :
    r'.path = r.path ∧ r'.language = r.language ∧ r'.ending = r.ending ∧ r'.mark = r.mark := by
  rw [steps_eq_append, List.mem_append] at hm
  rcases hm with hm | hm
  · obtain ⟨_, _, _, _, rfl⟩ := adds_before_risk hm hg
    exact ⟨rfl, rfl, rfl, rfl⟩
  · obtain ⟨_, _, rfl⟩ := adds_after_threats hm hg
    exact ⟨rfl, rfl, rfl, rfl⟩

end Parts

/-! ## Steps one after another -/

inductive Passes : List Step → AnalysisResult → Host → AnalysisResult → Host → Prop
  | nil {r : AnalysisResult} {h : Host} : Passes [] r h r h
  | cons {step : Step} {rest : List Step} {r r₁ r₂ : AnalysisResult} {h h₁ h₂ : Host} (hg : Gives (step r) h r₁ h₁)
      (hp : Passes rest r₁ h₁ r₂ h₂) : Passes (step :: rest) r h r₂ h₂

/-- The steps succeed up to one that fails; the result is that of the steps before it. -/
inductive Breaks : List Step → AnalysisResult → Host → AnalysisResult → Failure → Host → Prop
  | here {step : Step} {rest : List Step} {r : AnalysisResult} {h h₁ : Host} {e : Failure} (hf : Fails (step r) h e h₁) :
      Breaks (step :: rest) r h r e h₁
  | later {step : Step} {rest : List Step} {r r₁ r₂ : AnalysisResult} {h h₁ h₂ : Host} {e : Failure}
      (hg : Gives (step r) h r₁ h₁) (hb : Breaks rest r₁ h₁ r₂ e h₂) : Breaks (step :: rest) r h r₂ e h₂

theorem after_runSteps_cons (step : Step) (rest : List Step) (r : AnalysisResult) (h : Host) :
    Host.after (runSteps (step :: rest) r) h = match (step r).outcome h with
      | (.ok r₁, h₁) => Host.after (runSteps rest r₁) h₁
      | (.error e, h₁) => ({ r with ending := .failed e.message },
          { h₁ with printed := h₁.printed ++ ("[ERROR] Analysis failed: " ++ e.message) ++ "\n" }) := by
  rw [runSteps, Host.after_bind, after_attempt]
  rcases (step r).outcome h with ⟨e | r₁, h₁⟩
  · rfl
  · rfl

/-- Steps are passed, or break off and leave the result unfinished. -/
theorem passes_or_breaks (ss : List Step) (r : AnalysisResult) (h : Host) :
    (∃ r' h', Passes ss r h r' h' ∧ Host.after (runSteps ss r) h = (r', h')) ∨
    ∃ r' e h', Breaks ss r h r' e h' ∧ Host.after (runSteps ss r) h = ({ r' with ending := .failed e.message },
      { h' with printed := h'.printed ++ ("[ERROR] Analysis failed: " ++ e.message) ++ "\n" }) := by
  induction ss generalizing r h with
  | nil => exact .inl ⟨r, h, .nil, rfl⟩
  | cons step rest ih =>
    -- the rest runs on what the step has made of the result and of the host, so both vary in the induction
    rcases gives_or_fails (step r) h with ⟨r₁, h₁, hg⟩ | ⟨e, h₁, hf⟩
    · have hrun : Host.after (runSteps (step :: rest) r) h = Host.after (runSteps rest r₁) h₁ := by
        rw [after_runSteps_cons, hg]
      rcases ih r₁ h₁ with ⟨r', h', hp, hr⟩ | ⟨r', e, h', hb, hr⟩
      · exact .inl ⟨r', h', .cons hg hp, hrun.trans hr⟩
      · exact .inr ⟨r', e, h', .later hg hb, hrun.trans hr⟩
    · refine .inr ⟨r, e, h₁, .here hf, ?_⟩
      rw [after_runSteps_cons, hf]

section Invariant
variable {ss ss' : List Step} {r r' : AnalysisResult} {h h' : Host} {e : Failure} {P : AnalysisResult → Prop}

theorem Passes.invariant (hstep : ∀ step ∈ ss, ∀ r h r' h', P r → Gives (step r) h r' h' → P r') (hp : Passes ss r h r' h')
    (hr : P r) : P r' := by
  induction hp with
  | nil => exact hr
  | @cons step rest r r₁ _ h h₁ _ hg _ ih =>
    exact ih (fun t ht => hstep t (List.mem_cons_of_mem step ht)) (hstep step List.mem_cons_self r h r₁ h₁ hr hg)

theorem Breaks.invariant (hstep : ∀ step ∈ ss, ∀ r h r' h', P r → Gives (step r) h r' h' → P r')
    (hb : Breaks ss r h r' e h') (hr : P r) : P r' := by
  induction hb with
  | here _ => exact hr
  | @later step rest r r₁ _ h h₁ _ _ hg _ ih =>
    exact ih (fun t ht => hstep t (List.mem_cons_of_mem step ht)) (hstep step List.mem_cons_self r h r₁ h₁ hr hg)

theorem Passes.split (hp : Passes (ss ++ ss') r h r' h') : ∃ r₁ h₁, Passes ss r h r₁ h₁ ∧ Passes ss' r₁ h₁ r' h' := by
  induction ss generalizing r h with
  | nil => exact ⟨r, h, .nil, hp⟩
  | cons step rest ih =>
    cases hp with
    | cons hg hp =>
      obtain ⟨r₁, h₁, hrest, hp⟩ := ih hp
      exact ⟨r₁, h₁, .cons hg hrest, hp⟩

theorem Breaks.split (hb : Breaks (ss ++ ss') r h r' e h') :
    Breaks ss r h r' e h' ∨ ∃ r₁ h₁, Passes ss r h r₁ h₁ ∧ Breaks ss' r₁ h₁ r' e h' := by
  induction ss generalizing r h with
  | nil => exact .inr ⟨r, h, .nil, hb⟩
  | cons step rest ih =>
    cases hb with
    | here hf => exact .inl (.here hf)
    | later hg hb =>
      rcases ih hb with hb | ⟨r₁, h₁, hp, hb⟩
      · exact .inl (.later hg hb)
      · exact .inr ⟨r₁, h₁, .cons hg hp, hb⟩

end Invariant

theorem ending_of_passes {s : Settings} {path language : String} {r : AnalysisResult} {h h' : Host}
    (hp : Passes (steps s) (.start path language) h r h') : r.ending = .complete := by
  refine Passes.invariant (P := fun r => r.ending = .complete) ?_ hp rfl
  intro step hm r h r' h' hr hg
  rw [(frame_of_mem_steps hm hg).2.2.1, hr]

/-! ## The analysis of a file -/

/-- The analysis of the file can begin: the file has code, the settings can be read, and the language is supported. -/
structure Begins (config : Value) (path : String) (h : Host) (s : Settings) (language : String) : Prop where
  code : isEffectivelyEmpty h.disk path = false
  settings : Settings.ofConfig config = .ok s
  detected : Language.detect h.disk path = language
  supported : Language.isSupported language = true

theorem gives_skip (config : Value) {path : String} {h : Host} (he : isEffectivelyEmpty h.disk path = true) :
    Gives (analyzeWith config path) h (.skip path)
      { h with printed := h.printed ++ ("[INFO] Skipping empty/comment-only file: " ++ path) ++ "\n" } := by
  refine gives_bind.mpr ⟨h, h, gives_get.mpr ⟨rfl, rfl⟩, ?_⟩
  rw [if_pos he]
  exact gives_bind.mpr ⟨(), _, gives_say, gives_pure.mpr ⟨rfl, rfl⟩⟩

theorem gives_runSteps {config : Value} {path language : String} {h : Host} {s : Settings}
    (hb : Begins config path h s language) :
    Gives (analyzeWith config path) h (Host.after (runSteps (steps s) (.start path language)) h).1
      (Host.after (runSteps (steps s) (.start path language)) h).2 := by
  refine gives_bind.mpr ⟨h, h, gives_get.mpr ⟨rfl, rfl⟩, ?_⟩
  rw [if_neg (by simp [hb.code])]
  refine gives_bind.mpr ⟨s, h, gives_valid.mpr ⟨hb.settings, rfl⟩, gives_bind.mpr ⟨h, h, gives_get.mpr ⟨rfl, rfl⟩, ?_⟩⟩
  rw [hb.detected, if_neg (by simp [hb.supported])]
  exact gives_always.mpr rfl

/-- What comes of a file: it is passed over, its analysis is refused, breaks off, or comes to its end. -/
inductive Analysed (config : Value) (path : String) (h : Host) : Except Failure AnalysisResult → Host → Prop
  | skipped {h' : Host} (hc : isEffectivelyEmpty h.disk path = true) : Analysed config path h (.ok (.skip path)) h'
  | misconfigured {f : Fault} (hs : Settings.ofConfig config = .error f) : Analysed config path h (.error (.fault f)) h
  | unsupported {language : String} (hl : Language.detect h.disk path = language)
      (hs : Language.isSupported language = false) : Analysed config path h (.error (.unsupported language)) h
  | broken {s : Settings} {language : String} {r : AnalysisResult} {e : Failure} {h₁ h' : Host}
      (hb : Begins config path h s language) (hr : Breaks (steps s) (.start path language) h r e h₁) :
      Analysed config path h (.ok { r with ending := .failed e.message }) h'
  | completed {s : Settings} {language : String} {r : AnalysisResult} {h' : Host}
      (hb : Begins config path h s language) (hr : Passes (steps s) (.start path language) h r h') :
      Analysed config path h (.ok r) h'

theorem analysed (config : Value) (path : String) (h : Host) :
    Analysed config path h ((analyzeWith config path).outcome h).1 ((analyzeWith config path).outcome h).2 := by
  unfold analyzeWith
  simp only [outcome_bind, outcome_get]
  -- a file without code is passed over before the settings are looked at, and these are read before the language is
  by_cases hc : isEffectivelyEmpty h.disk path = true
  · rw [if_pos hc]
    exact .skipped hc
  · rw [if_neg hc]
    cases hs : Settings.ofConfig config with
    | error f => exact .misconfigured hs
    | ok s =>
      have hvalid : (valid (.ok s)).outcome h = (.ok s, h) := rfl
      simp only [outcome_bind, hvalid, outcome_get]
      by_cases hl : Language.isSupported (Language.detect h.disk path) = true
      · have hb : Begins config path h s (Language.detect h.disk path) := ⟨Bool.eq_false_iff.mpr hc, hs, rfl, hl⟩
        rw [if_neg (by simp [hl]), outcome_always]
        rcases passes_or_breaks (steps s) (.start path (Language.detect h.disk path)) h with
          ⟨r, h', hp, hr⟩ | ⟨r, e, h', hbr, hr⟩
        · rw [hr]
          exact .completed hb hp
        · rw [hr]
          exact .broken hb hbr
      · rw [if_pos (by simp [hl])]
        exact .unsupported rfl (Bool.eq_false_iff.mpr hl)

theorem threats_of_skipped {config : Value} {path : String} {h h' : Host} {r : AnalysisResult}
    (ha : Analysed config path h (.ok r) h') (hs : r.ending = .skipped) : r.threats = [] := by
  cases ha with
  | skipped _ => rfl
  | broken _ _ => cases hs
  | completed _ hp =>
    rw [ending_of_passes hp] at hs
    cases hs

end ThreatScan.Analysis
