import ThreatScan.Proofs.Analysis.Batch
/-!
What a batch counts as a success.

An analysis that can begin comes to its end or breaks off, never both (`Passes.not_breaks`). A batch counts the two alike: a
file succeeds exactly if its analysis can begin, and only the error in its result tells that it broke off
(`outcomeOf_entry`). So the number of successful files is the number of those whose analysis came to its end only if none
broke off, and one file that cannot be parsed is enough for the two numbers to differ.
-/
namespace ThreatScan

open Analysis Act BatchRecord

/-! ## An analysis ends in one way -/

namespace Analysis

theorem Passes.not_breaks {ss : List Step} {r r₁ r₂ : AnalysisResult} {h h₁ h₂ : Host} {e : Failure}
    (hp : Passes ss r h r₁ h₁) : ¬ Breaks ss r h r₂ e h₂ := by
  induction hp with
  | nil =>
    intro hb
    cases hb
  | cons hg _ ih =>
    intro hb
    cases hb with
    | here hf => cases hg.symm.trans hf
    | later hg' hb =>
      cases hg.symm.trans hg'
      exact ih hb

theorem Breaks.failure_unique {ss : List Step} {r r₁ r₂ : AnalysisResult} {h h₁ h₂ : Host} {e e' : Failure}
    (hb : Breaks ss r h r₁ e h₁) (hb' : Breaks ss r h r₂ e' h₂) : e = e' := by
  induction hb with
  | here hf =>
    cases hb' with
    | here hf' => cases hf.symm.trans hf'; rfl
    | later hg _ => cases hf.symm.trans hg
  | later hg _ ih =>
    cases hb' with
    | here hf => cases hg.symm.trans hf
    | later hg' hb' =>
      cases hg.symm.trans hg'
      exact ih hb'

theorem Begins.unique {config : Value} {path : String} {h : Host} {s s' : Settings} {language language' : String}
    (hb : Begins config path h s language) (hb' : Begins config path h s' language') : s = s' ∧ language = language' :=
  ⟨Except.ok.inj (hb.settings.symm.trans hb'.settings), hb.detected.symm.trans hb'.detected⟩

end Analysis

namespace Visit

def Ends (config : Value) (v : Visit) : Prop :=
  ∃ s language r h', Begins config v.path v.host s language ∧ Passes (steps s) (.start v.path language) v.host r h'

/-- The analysis of the file breaks off at a step, for the reason given. -/
def BreaksOff (config : Value) (v : Visit) (e : Failure) : Prop :=
  ∃ s language r h', Begins config v.path v.host s language ∧ Breaks (steps s) (.start v.path language) v.host r e h'

theorem Ends.not_breaksOff {config : Value} {v : Visit} {e : Failure} (he : v.Ends config) : ¬ v.BreaksOff config e := by
  obtain ⟨s, language, r, h', hb, hp⟩ := he
  rintro ⟨s', language', r', h'', hb', hbr⟩
  obtain ⟨rfl, rfl⟩ := hb.unique hb'
  exact hp.not_breaks hbr

theorem BreaksOff.unique {config : Value} {v : Visit} {e e' : Failure} (hv : v.BreaksOff config e)
    (hv' : v.BreaksOff config e') : e = e' := by
  obtain ⟨s, language, r, h', hb, hbr⟩ := hv
  obtain ⟨s', language', r', h'', hb', hbr'⟩ := hv'
  obtain ⟨rfl, rfl⟩ := hb.unique hb'
  exact hbr.failure_unique hbr'

end Visit

/-! ## What the record of a file tells -/

namespace BatchRecord

def errorIn (record : Value) : Option Value := (resultIn record).field? "error"

/-- The record says that the analysis succeeded, and its result carries no error. -/
def ended (record : Value) : Bool := succeeded record && (errorIn record).isNone

/-- The record says that the analysis succeeded, but its result carries an error. -/
def brokenOff (record : Value) : Bool := succeeded record && (errorIn record).isSome

/-- The record of a visit tells how the analysis went: it succeeded if it came to its end and also if it broke off. -/
structure OutcomeOf (config : Value) (v : Visit) (record : Value) : Prop where
  success : succeeded record = true ↔ v.Ends config ∨ ∃ e, v.BreaksOff config e
  ended : ended record = true ↔ v.Ends config
  brokenOff : brokenOff record = true ↔ ∃ e, v.BreaksOff config e
  error : ∀ e, v.BreaksOff config e → errorIn record = some (.str e.message)

namespace OutcomeOf

variable {config : Value} {v : Visit} {record : Value}

theorem of_not_begins (hs : succeeded record = false)
    (hn : ∀ s language, ¬ Begins config v.path v.host s language) : OutcomeOf config v record := by
  have hends : ¬ v.Ends config := fun ⟨s, language, _, _, hb, _⟩ => hn s language hb
  have hbreaks : ∀ e, ¬ v.BreaksOff config e := fun e ⟨s, language, _, _, hb, _⟩ => hn s language hb
  exact { success := by simp [hs, hends, hbreaks]
          ended := by simp [BatchRecord.ended, hs, hends]
          brokenOff := by simp [BatchRecord.brokenOff, hs, hbreaks]
          error := fun e he => absurd he (hbreaks e) }

theorem of_ends (hs : succeeded record = true) (he : errorIn record = none) (hv : v.Ends config) :
    OutcomeOf config v record := by
  have hbreaks : ∀ e, ¬ v.BreaksOff config e := fun e => hv.not_breaksOff
  exact { success := by simp [hs, hv]
          ended := by simp [BatchRecord.ended, hs, he, hv]
          brokenOff := by simp [BatchRecord.brokenOff, he, hbreaks]
          error := fun e he => absurd he (hbreaks e) }

theorem of_breaksOff {e : Failure} (hs : succeeded record = true) (he : errorIn record = some (.str e.message))
    (hv : v.BreaksOff config e) : OutcomeOf config v record := by
  have hends : ¬ v.Ends config := fun h => h.not_breaksOff hv
  have hbreaks : ∃ e, v.BreaksOff config e := ⟨e, hv⟩
  exact { success := by simp [hs, hbreaks]
          ended := by simp [BatchRecord.ended, he, hends]
          brokenOff := by simp [BatchRecord.brokenOff, hs, he, hbreaks]
          error := fun e' hv' => by rw [he, hv.unique hv'] }

end OutcomeOf

theorem field?_error (r : AnalysisResult) : r.toValue.field? "error" =
    match r.ending with
    | .failed message => some (.str message)
    | _ => none := by
  unfold AnalysisResult.toValue
  cases r.ending <;> rfl

theorem record_of_result {v : Visit} {r : AnalysisResult} (ho : v.outcome = .ok r) (hs : r.ending ≠ .skipped) :
    succeeded v.entry.toValue = true ∧ errorIn v.entry.toValue = r.toValue.field? "error" := by
  have hentry : v.entry = ⟨v.path, .done { r with mark := some v.path }⟩ := by
    simp only [Visit.entry, ho, if_neg hs]
  rw [hentry]
  refine ⟨rfl, ?_⟩
  rw [field?_error r]
  exact field?_error { r with mark := some v.path }

theorem outcomeOf_entry {config : Value} {v : Visit} {h' : Host} (ha : Analysed config v.path v.host v.outcome h') :
    OutcomeOf config v v.entry.toValue := by
  obtain ⟨path, h, o⟩ := v
  dsimp only at ha
  cases ha with
  | skipped hc =>
    refine .of_not_begins rfl fun s language hb => ?_
    cases hc.symm.trans hb.code
  | misconfigured hs =>
    refine .of_not_begins rfl fun s language hb => ?_
    cases hs.symm.trans hb.settings
  | unsupported hl hs =>
    refine .of_not_begins rfl fun s language hb => ?_
    rw [← hl, hb.detected, hb.supported] at hs
    cases hs
  | @broken s language r e h₁ _ hb hr =>
    obtain ⟨hsucc, herr⟩ := record_of_result (v := ⟨path, h, .ok { r with ending := .failed e.message }⟩) rfl (by simp)
    rw [field?_error] at herr
    exact .of_breaksOff hsucc herr ⟨s, language, r, h₁, hb, hr⟩
  | @completed s language r _ hb hr =>
    have hend := ending_of_passes hr
    obtain ⟨hsucc, herr⟩ := record_of_result (v := ⟨path, h, .ok r⟩) rfl (by simp [hend])
    rw [field?_error, hend] at herr
    exact .of_ends hsucc herr ⟨s, language, r, h', hb, hr⟩

theorem countP_ended_add (records : List Value) :
    records.countP ended + records.countP brokenOff = records.countP succeeded := by
  induction records with
  | nil => rfl
  | cons record rest ih =>
    rw [List.countP_cons, List.countP_cons, List.countP_cons, ← ih]
    unfold ended brokenOff
    cases succeeded record <;> cases errorIn record <;> simp <;> omega

/-- No record tells of an analysis that broke off exactly if none did. -/
theorem countP_brokenOff_eq_zero {config : Value} {visits : List Visit} {records : List Value}
    (hr : List.Forall₂ (OutcomeOf config) visits records) :
    records.countP brokenOff = 0 ↔ ∀ v ∈ visits, ∀ e, ¬ v.BreaksOff config e := by
  induction hr with
  | nil => simp
  | cons ho _ ih =>
    rw [List.countP_cons, Nat.add_eq_zero_iff, ih, List.forall_mem_cons, ← not_exists, ← ho.brokenOff]
    simp [and_comm]

end BatchRecord

namespace Analysis

/-- With a configuration at hand, a batch counts a file as successful if its analysis came to its end, and also if it broke
off; so it counts exactly the analyses that came to their end only if none broke off. -/
theorem successes_are_ended_or_broken_off {config : Option Value} {c : Value} {h h₁ : Host}
    (hc : Gives (configOr config) h c h₁) (paths : List String) :
    ∃ visits b h', Gives (analyzeMany config paths) h b h' ∧ InTurn c h₁ paths visits h' ∧
      List.Forall₂ (OutcomeOf c) visits (recordsIn b.toValue) ∧
      b.toValue.field? "files_successful" =
        some (.int ((recordsIn b.toValue).countP ended + (recordsIn b.toValue).countP brokenOff)) ∧
      (b.toValue.field? "files_successful" = some (.int ((recordsIn b.toValue).countP ended)) ↔
        ∀ v ∈ visits, ∀ e, ¬ v.BreaksOff c e) := by
  obtain ⟨visits, b, h', hg, hv, hb⟩ := exists_analyzeMany hc paths
  have hrecords : List.Forall₂ (OutcomeOf c) visits (recordsIn b.toValue) := by
    rw [recordsIn_toValue, (Batch.ofEntries_eq_ok.mp hb).2.1, List.map_map, List.forall₂_map_right_iff, List.forall₂_same]
    intro v hm
    obtain ⟨h₂, ha⟩ := hv.analysed v hm
    exact outcomeOf_entry ha
  have hcount := (accounted_toValue hv.paths_eq hb).successful
  rw [← countP_ended_add] at hcount
  refine ⟨visits, b, h', hg, hv, hrecords, mod_cast hcount, ?_⟩
  rw [hcount, ← countP_brokenOff_eq_zero hrecords]
  simp

theorem unparsed_file_broken_off :
    let h := refusingHost [("a.py", "def (\n")]
    Gives (configOr (some (.dict []))) h (.dict []) h ∧
    ∃ visits b h', Gives (analyzeMany (some (.dict [])) ["a.py"]) h b h' ∧ InTurn (.dict []) h ["a.py"] visits h' ∧
      List.Forall₂ (OutcomeOf (.dict [])) visits (recordsIn b.toValue) ∧
      b.toValue.field? "files_successful" =
        some (.int ((recordsIn b.toValue).countP ended + (recordsIn b.toValue).countP brokenOff)) ∧
      (b.toValue.field? "files_successful" = some (.int ((recordsIn b.toValue).countP ended)) ↔
        ∀ v ∈ visits, ∀ e, ¬ v.BreaksOff (.dict []) e) :=
  ⟨gives_pure.mpr ⟨rfl, rfl⟩, successes_are_ended_or_broken_off (gives_pure.mpr ⟨rfl, rfl⟩) _⟩

/-- A file that cannot be parsed is counted as successful, although its result carries an error. -/
theorem unparsed_file_counts_as_success :
    ∃ b h' record, Gives (analyzeMany (some (.dict [])) ["a.py"]) (refusingHost [("a.py", "def (\n")]) b h' ∧
      recordsIn b.toValue = [record] ∧ succeeded record = true ∧ (errorIn record).isSome = true ∧
      b.toValue.field? "files_successful" = some (.int 1) :=
  ⟨_, _, _, rfl, rfl, rfl, rfl, rfl⟩

end Analysis
end ThreatScan
