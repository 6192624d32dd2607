import ThreatScan.Proofs.Threat.Clues
import ThreatScan.Proofs.Threat.Tally
/-!
What an analysis makes of its results.

`findingsAt` is the list of findings that results hold under a key, and `Judged` says that results could be put together and
threats looked for in them. Then the aggregate holds the lists of the results and counts what is in them
(`Aggregate.items_of_ofResults`), and the threats are those of the eight kinds that these lists support (`Judged.threats`).
-/
namespace ThreatScan

def findingsAt (results : Value) (key : String) : List Value :=
  match results.get key (.list []) with
  | .ok found =>
    match found.items with
    | .ok xs => xs
    | .error _ => []
  | .error _ => []

/-- The results can be aggregated, and threats can be looked for in them. -/
structure Judged (static dynamic : Value) (a : Aggregate) (threats : List Threat) : Prop where
  aggregated : Aggregate.ofResults static dynamic = .ok a
  identified : Threat.identify a.toValue = .ok threats

/-! ## The findings of an aggregate -/

def Aggregate.findings (a : Aggregate) : Threat.Findings :=
  ⟨a.patternMatches, a.taintFlows, a.networkActivities, a.syscalls, a.fuzzResults⟩

theorem findingsAt_of_get {results found : Value} {key : String} {xs : List Value}
    (h : results.get key (.list []) = .ok found) (hx : found.items = .ok xs) : findingsAt results key = xs := by
  simp only [findingsAt, h, hx]

theorem findingsAt_noDynamic {key : String} (hk : key ∈ ["syscalls", "network_activities", "fuzz_results"])
    (dynamic : Value) :
    findingsAt (if dynamic.kind = .null then Aggregate.noDynamic else dynamic) key = findingsAt dynamic key := by
  split
  · next h =>
    have hd : dynamic = .null := by cases dynamic <;> simp_all [Value.kind]
    subst hd
    simp only [List.mem_cons, List.not_mem_nil, or_false] at hk
    rcases hk with rfl | rfl | rfl <;> rfl
  · rfl

/-- The lists that an aggregate holds are those of the results, and its tally counts them. -/
theorem Aggregate.items_of_ofResults {static dynamic : Value} {a : Aggregate} (h : ofResults static dynamic = .ok a) :
    a.findings.patternMatches.items = .ok (findingsAt static "pattern_matches") ∧
    a.findings.taintFlows.items = .ok (findingsAt static "taint_flows") ∧
    a.findings.syscalls.items = .ok (findingsAt dynamic "syscalls") ∧
    a.findings.networkActivities.items = .ok (findingsAt dynamic "network_activities") ∧
    a.findings.fuzzResults.items = .ok (findingsAt dynamic "fuzz_results") ∧
    ∀ s, a.tally.count s = (findingsAt static "pattern_matches").countP (Tally.states s) +
      (if s = .critical then (findingsAt static "taint_flows").length else 0) +
      (findingsAt dynamic "syscalls").countP (fun e => syscallSeverity e == some s) +
      (if s = .medium then (findingsAt dynamic "network_activities").length else 0) +
      (findingsAt dynamic "fuzz_results").countP fun z => decide (s = .high) && crashed z := by
  unfold ofResults at h
  obtain ⟨pm, hpm, h⟩ := Checked.bind_eq_ok.mp h
  obtain ⟨tf, htf, h⟩ := Checked.bind_eq_ok.mp h
  obtain ⟨fs, -, h⟩ := Checked.bind_eq_ok.mp h
  obtain ⟨sv, -, h⟩ := Checked.bind_eq_ok.mp h
  obtain ⟨sy, -, h⟩ := Checked.bind_eq_ok.mp h
  obtain ⟨sc, hsc, h⟩ := Checked.bind_eq_ok.mp h
  obtain ⟨na, hna, h⟩ := Checked.bind_eq_ok.mp h
  obtain ⟨fr, hfr, h⟩ := Checked.bind_eq_ok.mp h
  obtain ⟨el, -, h⟩ := Checked.bind_eq_ok.mp h
  obtain ⟨t, ht, h⟩ := Checked.bind_eq_ok.mp h
  obtain ⟨ms, flows, ss, as, zs, hms, hflows, hss, has, hzs, hcount⟩ := count_tallyOf ht
  rw [← Checked.pure_eq_ok.mp h]
  have e₁ := findingsAt_of_get hpm hms
  have e₂ := findingsAt_of_get htf hflows
  have e₃ := findingsAt_of_get hsc hss
  have e₄ := findingsAt_of_get hna has
  have e₅ := findingsAt_of_get hfr hzs
  rw [findingsAt_noDynamic (by simp)] at e₃ e₄ e₅
  rw [e₁, e₂, e₃, e₄, e₅]
  exact ⟨hms, hflows, hss, has, hzs, hcount⟩

theorem Threat.ofAggregated_toValue (a : Aggregate) : Findings.ofAggregated a.toValue = .ok a.findings := rfl

/-- The threats are those of the lists of the aggregate, kind by kind. -/
theorem Judged.threats {static dynamic : Value} {a : Aggregate} {ts : List Threat} (h : Judged static dynamic a ts) :
    ∃ os, List.Forall₂ (fun kind o => Threat.ofKind a.findings kind = .ok o) ThreatKind.all os ∧ ts = os.filterMap id := by
  obtain ⟨f, os, hf, hos, hts⟩ := Threat.identify_eq_ok h.identified
  rw [Threat.ofAggregated_toValue] at hf
  cases hf
  exact ⟨os, hos, hts⟩

end ThreatScan
