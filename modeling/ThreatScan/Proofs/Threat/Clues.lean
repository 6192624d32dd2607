import ThreatScan.Proofs.Threat.Lines
/-!
What the threats of an analysis rest on.

`clueSources` lists, for each kind of threat, where its clues come from: a list of findings and the test made on each of
them. A threat of a kind is reported exactly if one of these tests accepts a finding (`ofKind_isSome_iff`), and its lines are
the lines that the clues point at (`lines_of_ofKind`). Kinds are reported once, in their order (`kinds_sublist`).
-/
namespace ThreatScan

theorem ThreatKind.mem_all (kind : ThreatKind) : kind ∈ ThreatKind.all := by
  cases kind <;> decide

namespace Threat

/-- The lists of findings that clues to a kind of threat come from, each with the test made on its items. -/
def clueSources : ThreatKind → List ((Findings → Value) × (Value → Except Fault (Option Clue)))
  | .remoteExecution => [(Findings.patternMatches, executionMatch), (Findings.taintFlows, executionFlow),
      (Findings.syscalls, executionCall)]
  | .commandInjection => [(Findings.taintFlows, injectionFlow)]
  | .webShell => [(Findings.patternMatches, ruleClue "webshell_")]
  | .backdoor => [(Findings.patternMatches, ruleClue "backdoor_")]
  | .sqlInjection => [(Findings.patternMatches, ruleClue "sql_injection")]
  | .exfiltration => [(Findings.networkActivities, activityClue)]
  | .fileRisk => [(Findings.patternMatches, ruleClue "file_")]
  | .crash => [(Findings.fuzzResults, crashClue)]

theorem cluesIn_eq_ok {findings : Value} {clue? : Value → Except Fault (Option Clue)} {cs : List Clue}
    (h : cluesIn findings clue? = .ok cs) :
    ∃ xs, findings.items = .ok xs ∧ ∀ c, c ∈ cs ↔ ∃ x ∈ xs, clue? x = .ok (some c) := by
  obtain ⟨xs, hxs, h⟩ := Checked.bind_eq_ok.mp h
  obtain ⟨os, hos, h⟩ := Checked.bind_eq_ok.mp h
  refine ⟨xs, hxs, fun c => ?_⟩
  rw [← Checked.pure_eq_ok.mp h, List.mem_filterMap]
  simp only [Checked.mem_iff_of_mapM_eq_ok hos, id]
  constructor
  · rintro ⟨o, ho, rfl⟩
    exact ho
  · intro hc
    exact ⟨some c, hc, rfl⟩

/-- Findings that can all be tested have clues; what each clue satisfies, all of them do. -/
theorem exists_cluesIn {xs : List Value} {clue? : Value → Except Fault (Option Clue)} {P : Clue → Prop}
    (h : ∀ x ∈ xs, ∃ o, clue? x = .ok o ∧ ∀ c ∈ o, P c) :
    ∃ cs, cluesIn (.list xs) clue? = .ok cs ∧ ∀ c ∈ cs, P c := by
  obtain ⟨os, hos⟩ := Checked.exists_mapM_eq_ok fun x hx => (h x hx).imp fun _ ho => ho.1
  have hcs : cluesIn (.list xs) clue? = .ok (os.filterMap id) := Checked.bind_eq_ok.mpr ⟨xs, rfl, by rw [hos]; rfl⟩
  refine ⟨_, hcs, fun c hc => ?_⟩
  obtain ⟨ys, hys, hmem⟩ := cluesIn_eq_ok hcs
  cases hys
  obtain ⟨x, hx, hxc⟩ := (hmem c).mp hc
  obtain ⟨o, ho, hP⟩ := h x hx
  rw [hxc] at ho
  cases ho
  exact hP c rfl

/-- A finding that one of the tests of a kind accepts, and the clue that it gives. -/
def Supports (f : Findings) (kind : ThreatKind) (c : Clue) : Prop :=
  ∃ s ∈ clueSources kind, ∃ xs, (s.1 f).items = .ok xs ∧ ∃ x ∈ xs, s.2 x = .ok (some c)

theorem supports_of_cluesIn {f : Findings} {list : Findings → Value} {clue? : Value → Except Fault (Option Clue)}
    {cs : List Clue} (h : cluesIn (list f) clue? = .ok cs) (c : Clue) :
    c ∈ cs ↔ ∃ xs, (list f).items = .ok xs ∧ ∃ x ∈ xs, clue? x = .ok (some c) := by
  obtain ⟨xs, hxs, hmem⟩ := cluesIn_eq_ok h
  rw [hmem]
  constructor
  · intro hx
    exact ⟨xs, hxs, hx⟩
  · rintro ⟨ys, hys, hy⟩
    rw [hxs] at hys
    cases hys
    exact hy

theorem mem_clues_iff {f : Findings} {kind : ThreatKind} {cs : List Clue} (h : clues f kind = .ok cs) (c : Clue) :
    c ∈ cs ↔ Supports f kind c := by
  unfold Supports
  cases kind with
  | remoteExecution =>
    obtain ⟨found, hfound, h⟩ := Checked.bind_eq_ok.mp h
    obtain ⟨flows, hflows, h⟩ := Checked.bind_eq_ok.mp h
    obtain ⟨calls, hcalls, h⟩ := Checked.bind_eq_ok.mp h
    rw [← Checked.pure_eq_ok.mp h, List.mem_append, List.mem_append]
    simp [clueSources, supports_of_cluesIn hfound, supports_of_cluesIn hflows, supports_of_cluesIn hcalls, or_assoc]
  | commandInjection => simp [clueSources, supports_of_cluesIn h]
  | webShell => simp [clueSources, supports_of_cluesIn h]
  | backdoor => simp [clueSources, supports_of_cluesIn h]
  | sqlInjection => simp [clueSources, supports_of_cluesIn h]
  | exfiltration => simp [clueSources, supports_of_cluesIn h]
  | fileRisk => simp [clueSources, supports_of_cluesIn h]
  | crash => simp [clueSources, supports_of_cluesIn h]

/-! ## One kind of threat -/

/-- Without clues there is no threat; with some, they are its evidence and give its lines. -/
theorem ofKind_eq_ok {f : Findings} {kind : ThreatKind} {o : Option Threat} (h : ofKind f kind = .ok o) :
    ∃ cs, clues f kind = .ok cs ∧ (cs = [] ∧ o = none ∨ cs ≠ [] ∧ ∃ lines,
      sortedLines (cs.filterMap (·.line)) = .ok lines ∧ o = some ⟨kind, cs.map (·.evidence), lines⟩) := by
  obtain ⟨cs, hcs, h⟩ := Checked.bind_eq_ok.mp h
  refine ⟨cs, hcs, ?_⟩
  unfold ofClues at h
  cases cs with
  | nil => exact .inl ⟨rfl, (Checked.pure_eq_ok.mp h).symm⟩
  | cons c rest =>
    simp only [List.isEmpty_cons, Bool.false_eq_true, if_false] at h
    obtain ⟨lines, hl, h⟩ := Checked.bind_eq_ok.mp h
    exact .inr ⟨by simp, lines, hl, (Checked.pure_eq_ok.mp h).symm⟩

/-- Lines that are numbers can be sorted, so clues with such lines give a threat or none. -/
theorem exists_ofKind {f : Findings} {kind : ThreatKind} {cs : List Clue} (hcs : clues f kind = .ok cs)
    (hl : ∀ c ∈ cs, ∀ l ∈ c.line, l.isNumber = true) : ∃ o, ofKind f kind = .ok o := by
  have hnum : ∀ l ∈ cs.filterMap (·.line), l.isNumber = true := by
    intro l h
    obtain ⟨c, hc, hcl⟩ := List.mem_filterMap.mp h
    exact hl c hc l hcl
  obtain ⟨lines, hlines⟩ := exists_sortedLines hnum
  have hof : ∃ o, ofClues kind cs = .ok o := by
    unfold ofClues
    split
    · exact ⟨none, rfl⟩
    · exact ⟨_, Checked.bind_eq_ok.mpr ⟨lines, hlines, rfl⟩⟩
  obtain ⟨o, ho⟩ := hof
  exact ⟨o, Checked.bind_eq_ok.mpr ⟨cs, hcs, ho⟩⟩

theorem kind_of_ofKind {f : Findings} {kind : ThreatKind} {t : Threat} (h : ofKind f kind = .ok (some t)) :
    t.kind = kind := by
  obtain ⟨cs, -, ⟨-, ho⟩ | ⟨-, lines, -, ho⟩⟩ := ofKind_eq_ok h
  · simp at ho
  · rw [Option.some.inj ho]

/-- A kind of threat is reported exactly if something supports it. -/
theorem ofKind_isSome_iff {f : Findings} {kind : ThreatKind} {o : Option Threat} (h : ofKind f kind = .ok o) :
    o.isSome = true ↔ ∃ c, Supports f kind c := by
  obtain ⟨cs, hcs, ⟨rfl, rfl⟩ | ⟨hne, lines, -, rfl⟩⟩ := ofKind_eq_ok h
  · simp [← mem_clues_iff hcs]
  · simp only [Option.isSome_some, true_iff, ← mem_clues_iff hcs]
    exact List.exists_mem_of_ne_nil cs hne

theorem lines_of_ofKind {f : Findings} {kind : ThreatKind} {t : Threat} (h : ofKind f kind = .ok (some t)) :
    ∃ ls, sortedLines ls = .ok t.lines ∧ ∀ l, l ∈ ls ↔ ∃ c, Supports f kind c ∧ c.line = some l := by
  obtain ⟨cs, hcs, ⟨-, ho⟩ | ⟨-, lines, hl, ho⟩⟩ := ofKind_eq_ok h
  · simp at ho
  · refine ⟨cs.filterMap (·.line), by rw [Option.some.inj ho]; exact hl, fun l => ?_⟩
    simp only [List.mem_filterMap, mem_clues_iff hcs]

/-! ## All kinds -/

theorem identify_eq_ok {aggregated : Value} {ts : List Threat} (h : identify aggregated = .ok ts) :
    ∃ f os, Findings.ofAggregated aggregated = .ok f ∧
      List.Forall₂ (fun kind o => ofKind f kind = .ok o) ThreatKind.all os ∧ ts = os.filterMap id := by
  obtain ⟨f, hf, h⟩ := Checked.bind_eq_ok.mp h
  obtain ⟨os, hos, h⟩ := Checked.bind_eq_ok.mp h
  exact ⟨f, os, hf, Checked.mapM_eq_ok.mp hos, (Checked.pure_eq_ok.mp h).symm⟩

section Kinds
variable {f : Findings} {kinds : List ThreatKind} {os : List (Option Threat)}

/-- Every kind asked for is reported at most once, in its place. -/
theorem kinds_sublist (h : List.Forall₂ (fun kind o => ofKind f kind = .ok o) kinds os) :
    ((os.filterMap id).map Threat.kind).Sublist kinds := by
  induction h with
  | nil => exact List.Sublist.slnil
  | @cons kind o kinds os ho _ ih =>
    cases o with
    | none => exact ih.cons kind
    | some t =>
      have hk := kind_of_ofKind ho
      subst hk
      exact ih.cons_cons t.kind

theorem mem_threats_iff (h : List.Forall₂ (fun kind o => ofKind f kind = .ok o) kinds os) (t : Threat) :
    t ∈ os.filterMap id ↔ t.kind ∈ kinds ∧ ofKind f t.kind = .ok (some t) := by
  have hmem := Checked.mem_iff_of_mapM_eq_ok (Checked.mapM_eq_ok.mpr h) (some t)
  rw [List.mem_filterMap]
  constructor
  · rintro ⟨o, ho, rfl⟩
    obtain ⟨kind, hk, hkt⟩ := hmem.mp ho
    have hkind := kind_of_ofKind hkt
    subst hkind
    exact ⟨hk, hkt⟩
  · rintro ⟨hk, hkt⟩
    exact ⟨some t, hmem.mpr ⟨t.kind, hk, hkt⟩, rfl⟩

end Kinds

end Threat
end ThreatScan
