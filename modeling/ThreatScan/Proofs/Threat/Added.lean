import ThreatScan.Analysis.Dynamic
import ThreatScan.Proofs.Threat.Monotone
/-!
Findings of runs beside those of the text.

Let the static results of a file be such that they can be judged alone. Then they can be judged together with the results of
a run, unless a logged connection names a line by a number too long to be read (`exists_judged_iff`), and every kind of
threat stays (`Judged.kinds_subperm`).
-/
namespace ThreatScan

open Analysis (dynamicRecord syscallEntries)

namespace Threat

/-- Whether clues can be made a threat rests on their lines alone. -/
theorem exists_ofClues_iff {kind : ThreatKind} {cs : List Clue} :
    (∃ o, ofClues kind cs = .ok o) ↔ ∃ ls, sortedLines (cs.filterMap (·.line)) = .ok ls := by
  unfold ofClues
  constructor
  · rintro ⟨o, ho⟩
    split at ho
    · next hempty =>
      rw [List.isEmpty_iff.mp hempty]
      exact ⟨[], rfl⟩
    · obtain ⟨ls, hls, -⟩ := Checked.bind_eq_ok.mp ho
      exact ⟨ls, hls⟩
  · rintro ⟨ls, hls⟩
    split
    · exact ⟨none, rfl⟩
    · exact ⟨_, Checked.bind_eq_ok.mpr ⟨ls, hls, rfl⟩⟩

theorem exists_ofClues_append {kind : ThreatKind} {cs more : List Clue} {o : Option Threat} (h : ofClues kind cs = .ok o)
    (hmore : ∀ c ∈ more, c.line = none) : ∃ o', ofClues kind (cs ++ more) = .ok o' := by
  obtain ⟨ls, hls⟩ := exists_ofClues_iff.mp ⟨o, h⟩
  have hnone : more.filterMap (·.line) = [] := List.filterMap_eq_nil_iff.mpr hmore
  refine exists_ofClues_iff.mpr ⟨ls, ?_⟩
  rw [List.filterMap_append, hnone, List.append_nil]
  exact hls

/-! ## What a run logs -/

theorem exists_calls (entries : List Value) :
    ∃ cs, cluesIn (.list entries) executionCall = .ok cs ∧ ∀ c ∈ cs, c.line = none := by
  refine exists_cluesIn fun entry _ => ?_
  cases entry with
  | dict fields =>
    refine ⟨_, rfl, fun c hc => ?_⟩
    obtain ⟨-, ⟨⟩⟩ := Option.ite_none_right_eq_some.mp hc
    rfl
  | str line =>
    refine ⟨_, rfl, fun c hc => ?_⟩
    obtain ⟨-, ⟨⟩⟩ := Option.ite_none_right_eq_some.mp hc
    rfl
  | _ => exact ⟨none, rfl, fun c hc => by cases hc⟩

theorem exists_crashes (fuzz : List FuzzResult) :
    ∃ cs, cluesIn (.list (fuzz.map FuzzResult.toValue)) crashClue = .ok cs ∧ ∀ c ∈ cs, c.line = none := by
  refine exists_cluesIn fun z hz => ?_
  obtain ⟨r, -, rfl⟩ := List.mem_map.mp hz
  refine ⟨_, rfl, fun c hc => ?_⟩
  obtain ⟨-, ⟨⟩⟩ := Option.ite_none_right_eq_some.mp hc
  rfl

/-- The number that the line of a connection names, if it names one, can be read. -/
def Readable (a : NetworkActivity) : Prop := ∃ l, markedLine a.line.toList = .ok l

theorem activityClue_toValue (a : NetworkActivity) :
    activityClue a.toValue = (markedLine a.line.toList).map fun l => some ⟨a.toValue, l⟩ := by
  have hline : a.toValue.field? "line" = some (.str a.line) := rfl
  unfold activityClue
  rw [hline]
  dsimp only
  cases markedLine a.line.toList <;> rfl

theorem isNumber_of_markedLine {line : List Char} {l : Value} (h : markedLine line = .ok (some l)) : l.isNumber = true := by
  unfold markedLine at h
  split at h
  · cases h
  · split at h
    · cases h
      rfl
    · cases h

theorem exists_ofKind_exfiltration_iff {f : Findings} {as : List NetworkActivity}
    (hf : f.networkActivities = .list (as.map NetworkActivity.toValue)) :
    (∃ o, ofKind f .exfiltration = .ok o) ↔ ∀ a ∈ as, Readable a := by
  have hclues : clues f .exfiltration = cluesIn (.list (as.map NetworkActivity.toValue)) activityClue := by rw [← hf]; rfl
  constructor
  · rintro ⟨o, ho⟩ a ha
    obtain ⟨cs, hcs, -⟩ := ofKind_eq_ok ho
    rw [hclues] at hcs
    obtain ⟨xs, hxs, hcs⟩ := Checked.bind_eq_ok.mp hcs
    cases hxs
    obtain ⟨os, hos, -⟩ := Checked.bind_eq_ok.mp hcs
    obtain ⟨c, hc⟩ := Checked.exists_of_mapM_eq_ok hos (List.mem_map_of_mem ha)
    rw [activityClue_toValue] at hc
    unfold Readable
    cases hl : markedLine a.line.toList with
    | ok l => exact ⟨l, rfl⟩
    | error e => rw [hl] at hc; cases hc
  · intro hreadable
    have htests : ∀ x ∈ as.map NetworkActivity.toValue,
        ∃ o, activityClue x = .ok o ∧ ∀ c ∈ o, ∀ l ∈ c.line, l.isNumber = true := by
      intro x hx
      obtain ⟨a, ha, rfl⟩ := List.mem_map.mp hx
      obtain ⟨l, hl⟩ := hreadable a ha
      refine ⟨some ⟨a.toValue, l⟩, by rw [activityClue_toValue, hl]; rfl, ?_⟩
      rintro c ⟨⟩ l' rfl
      exact isNumber_of_markedLine hl
    obtain ⟨cs, hcs, hnum⟩ := exists_cluesIn htests
    exact exists_ofKind (hclues.trans hcs) hnum

/-! ## Kinds of threat -/

/-- Findings of the text alone, and the same beside those of a run. -/
structure Added (f g : Findings) (entries : List Value) (as : List NetworkActivity) (fuzz : List FuzzResult) : Prop where
  patternMatches : g.patternMatches = f.patternMatches
  taintFlows : g.taintFlows = f.taintFlows
  noCalls : f.syscalls = .list []
  calls : g.syscalls = .list entries
  activities : g.networkActivities = .list (as.map NetworkActivity.toValue)
  fuzz : g.fuzzResults = .list (fuzz.map FuzzResult.toValue)

/-- A run can spoil the threat of one kind only, that of its connections. -/
theorem Added.exists_ofKind {f g : Findings} {entries : List Value} {as : List NetworkActivity} {fuzz : List FuzzResult}
    (h : Added f g entries as fuzz) {kind : ThreatKind} {o : Option Threat} (hf : ofKind f kind = .ok o)
    (hkind : kind ≠ .exfiltration) : ∃ o', ofKind g kind = .ok o' := by
  cases kind with
  | remoteExecution =>
    obtain ⟨cs, hcs, ho⟩ := Checked.bind_eq_ok.mp hf
    obtain ⟨found, hfound, hcs⟩ := Checked.bind_eq_ok.mp hcs
    obtain ⟨flows, hflows, hcs⟩ := Checked.bind_eq_ok.mp hcs
    obtain ⟨rest, hrest, hcs⟩ := Checked.bind_eq_ok.mp hcs
    -- without a run no call is logged, and the calls of a run point at no line
    rw [h.noCalls] at hrest
    have hrest : rest = [] := Except.ok.inj (hrest.symm.trans rfl)
    rw [← Checked.pure_eq_ok.mp hcs, hrest, List.append_nil] at ho
    obtain ⟨calls, hcalls, hlines⟩ := exists_calls entries
    obtain ⟨o', ho'⟩ := exists_ofClues_append ho hlines
    refine ⟨o', Checked.bind_eq_ok.mpr ⟨found ++ flows ++ calls, ?_, ho'⟩⟩
    rw [← h.patternMatches] at hfound
    rw [← h.taintFlows] at hflows
    rw [← h.calls] at hcalls
    exact Checked.bind_eq_ok.mpr ⟨found, hfound, Checked.bind_eq_ok.mpr ⟨flows, hflows,
      Checked.bind_eq_ok.mpr ⟨calls, hcalls, rfl⟩⟩⟩
  | crash =>
    obtain ⟨cs, hcs, hlines⟩ := exists_crashes fuzz
    have hclues : clues g .crash = .ok cs := by
      rw [← hcs, ← h.fuzz]
      rfl
    refine Threat.exists_ofKind hclues fun c hc l hl => ?_
    rw [hlines c hc] at hl
    cases hl
  | exfiltration => exact absurd rfl hkind
  | commandInjection => exact ⟨o, by rw [← hf]; unfold ofKind clues; rw [h.taintFlows]⟩
  | webShell => exact ⟨o, by rw [← hf]; unfold ofKind clues; rw [h.patternMatches]⟩
  | backdoor => exact ⟨o, by rw [← hf]; unfold ofKind clues; rw [h.patternMatches]⟩
  | sqlInjection => exact ⟨o, by rw [← hf]; unfold ofKind clues; rw [h.patternMatches]⟩
  | fileRisk => exact ⟨o, by rw [← hf]; unfold ofKind clues; rw [h.patternMatches]⟩

end Threat

/-! ## Whole results -/

theorem Aggregate.exists_tallyOf {found flows syscalls activities fuzz : Value} {t : Tally}
    (h : tallyOf found flows syscalls activities fuzz = .ok t) (entries as : List Value) (zs : List FuzzResult) :
    ∃ u, tallyOf found flows (.list entries) (.list as) (.list (zs.map FuzzResult.toValue)) = .ok u := by
  have hfold : ∀ t, ∃ u, (zs.map FuzzResult.toValue).foldlM addFuzz t = .ok u := by
    induction zs with
    | nil => exact fun t => ⟨t, rfl⟩
    | cons z rest ih =>
      intro t
      obtain ⟨u, hu⟩ := ih (if z.crashed then t.add .high 1 else t)
      exact ⟨u, hu⟩
  obtain ⟨ms, hms, h⟩ := Checked.bind_eq_ok.mp h
  obtain ⟨t₁, ht₁, h⟩ := Checked.bind_eq_ok.mp h
  obtain ⟨n, hn, -⟩ := Checked.bind_eq_ok.mp h
  obtain ⟨u, hu⟩ := hfold ((entries.foldl addSyscall (t₁.add .critical n)).add .medium as.length)
  refine ⟨u, Checked.bind_eq_ok.mpr ⟨ms, hms, Checked.bind_eq_ok.mpr ⟨t₁, ht₁, Checked.bind_eq_ok.mpr ⟨n, hn, ?_⟩⟩⟩⟩
  exact hu

def noRun : Value := dynamicRecord [] [] [] "" []

section Run
variable {static : Value} {a : Aggregate} {ts : List Threat} (h : Judged static noRun a ts) (entries : List Value)
  (as : List NetworkActivity) (zs : List FuzzResult) (log : String) (more : List (String × Value))
include h

theorem Judged.exists_aggregate : ∃ b,
    Aggregate.ofResults static (dynamicRecord entries (as.map NetworkActivity.toValue) (zs.map FuzzResult.toValue) log more) =
      .ok b ∧ Threat.Added a.findings b.findings entries as zs := by
  have ha := h.aggregated
  unfold Aggregate.ofResults at ha
  obtain ⟨pm, hpm, ha⟩ := Checked.bind_eq_ok.mp ha
  obtain ⟨tf, htf, ha⟩ := Checked.bind_eq_ok.mp ha
  obtain ⟨fs, hfs, ha⟩ := Checked.bind_eq_ok.mp ha
  obtain ⟨sv, hsv, ha⟩ := Checked.bind_eq_ok.mp ha
  obtain ⟨sy, hsy, ha⟩ := Checked.bind_eq_ok.mp ha
  obtain ⟨sc, hsc, ha⟩ := Checked.bind_eq_ok.mp ha
  obtain ⟨na, -, ha⟩ := Checked.bind_eq_ok.mp ha
  obtain ⟨fr, -, ha⟩ := Checked.bind_eq_ok.mp ha
  obtain ⟨el, -, ha⟩ := Checked.bind_eq_ok.mp ha
  obtain ⟨t, ht, ha⟩ := Checked.bind_eq_ok.mp ha
  obtain ⟨u, hu⟩ := Aggregate.exists_tallyOf ht entries (as.map NetworkActivity.toValue) zs
  let b : Aggregate := ⟨pm, tf, fs, sv, sy, .list entries, .list (as.map NetworkActivity.toValue),
    .list (zs.map FuzzResult.toValue), .str log, u⟩
  rw [← Checked.pure_eq_ok.mp ha]
  refine ⟨b, ?_, ⟨rfl, rfl, (Except.ok.inj hsc).symm, rfl, rfl, rfl⟩⟩
  unfold Aggregate.ofResults
  rw [hpm, htf, hfs, hsv, hsy]
  simp only [Checked.ok_bind]
  refine Checked.bind_eq_ok.mpr ⟨_, rfl, Checked.bind_eq_ok.mpr ⟨_, rfl, Checked.bind_eq_ok.mpr ⟨_, rfl, ?_⟩⟩⟩
  exact Checked.bind_eq_ok.mpr ⟨_, rfl, Checked.bind_eq_ok.mpr ⟨u, hu, rfl⟩⟩

/-- Together they can be judged exactly if the numbers in the lines of the log can be read. -/
theorem exists_judged_iff : (∃ b us, Judged static
    (dynamicRecord entries (as.map NetworkActivity.toValue) (zs.map FuzzResult.toValue) log more) b us) ↔
    ∀ x ∈ as, Threat.Readable x := by
  obtain ⟨b, hb, hadded⟩ := h.exists_aggregate entries as zs log more
  obtain ⟨os, hos, -⟩ := h.threats
  constructor
  · rintro ⟨b', us, hj⟩
    cases hb.symm.trans hj.aggregated
    obtain ⟨os', hos', -⟩ := hj.threats
    obtain ⟨o, ho⟩ := Checked.exists_of_mapM_eq_ok (Checked.mapM_eq_ok.mpr hos') (ThreatKind.mem_all .exfiltration)
    exact (Threat.exists_ofKind_exfiltration_iff hadded.activities).mp ⟨o, ho⟩
  · intro hreadable
    have hkinds : ∀ kind ∈ ThreatKind.all, ∃ o, Threat.ofKind b.findings kind = .ok o := by
      intro kind hkind
      by_cases he : kind = .exfiltration
      · rw [he]
        exact (Threat.exists_ofKind_exfiltration_iff hadded.activities).mpr hreadable
      · obtain ⟨o, ho⟩ := Checked.exists_of_mapM_eq_ok (Checked.mapM_eq_ok.mpr hos) hkind
        exact hadded.exists_ofKind ho he
    obtain ⟨os', hos'⟩ := Checked.exists_mapM_eq_ok hkinds
    exact ⟨b, _, hb, Checked.bind_eq_ok.mpr ⟨_, rfl, Checked.bind_eq_ok.mpr ⟨os', hos', rfl⟩⟩⟩

omit h in
theorem fewer_noRun : Fewer static noRun static (dynamicRecord entries (as.map NetworkActivity.toValue)
    (zs.map FuzzResult.toValue) log more) where
  patternMatches := List.Subperm.refl _
  taintFlows := List.Subperm.refl _
  syscalls := List.nil_subperm
  networkActivities := List.nil_subperm
  fuzzResults := List.nil_subperm

end Run

end ThreatScan
