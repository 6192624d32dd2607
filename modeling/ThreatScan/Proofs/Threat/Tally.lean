import ThreatScan.Proofs.Checked
import ThreatScan.Threat.Aggregate
import ThreatScan.Threat.Identify
import ThreatScan.Threat.Risk
/-!
Tallies as counts.

`Tally.count` reads the number of findings of a severity off a tally. The tally of a list of findings counts the findings
that state each severity (`count_ofFindings`); the tally of an analysis adds up what its five lists bring
(`count_tallyOf`); and the score and the level of a risk grow with the tally (`scoreOf_mono`, `levelOf_mono`).
-/
namespace ThreatScan

def Severity.rank : Severity → Nat
  | .low => 0
  | .medium => 1
  | .high => 2
  | .critical => 3

namespace Tally

def count (t : Tally) : Severity → Nat
  | .critical => t.critical
  | .high => t.high
  | .medium => t.medium
  | .low => t.low

/-- Of no severity are there more findings. -/
def le (t u : Tally) : Prop := t.critical ≤ u.critical ∧ t.high ≤ u.high ∧ t.medium ≤ u.medium ∧ t.low ≤ u.low

theorem le_of_count {t u : Tally} (h : ∀ s, t.count s ≤ u.count s) : t.le u :=
  ⟨h .critical, h .high, h .medium, h .low⟩

theorem eq_of_le_le {t u : Tally} (h : t.le u) (h' : u.le t) : t = u := by
  obtain ⟨tc, th, tm, tl⟩ := t
  obtain ⟨uc, uh, um, ul⟩ := u
  simp only [le] at h h'
  simp only [mk.injEq]
  omega

@[simp] theorem count_zero (s : Severity) : zero.count s = 0 := by
  cases s <;> rfl

theorem count_add (t : Tally) (s s' : Severity) (n : Nat) :
    (t.add s n).count s' = t.count s' + if s = s' then n else 0 := by
  cases s <;> cases s' <;> simp [add, count]

/-- A pass in which each item that passes a test adds one. -/
theorem count_foldlM {f : Tally → Value → Except Fault Tally} {p : Severity → Value → Bool}
    (hf : ∀ t x u, f t x = .ok u → ∀ s, u.count s = t.count s + if p s x then 1 else 0)
    {xs : List Value} {t u : Tally} (h : xs.foldlM f t = .ok u) (s : Severity) :
    u.count s = t.count s + xs.countP (p s) := by
  induction xs generalizing t with
  | nil =>
    rw [List.foldlM_nil, Checked.pure_eq_ok] at h
    simp [h]
  | cons x rest ih =>
    rw [List.foldlM_cons] at h
    obtain ⟨t', ht, h⟩ := Checked.bind_eq_ok.mp h
    rw [ih h, hf t x t' ht s, List.countP_cons]
    omega

def states (s : Severity) (finding : Value) : Bool := (Severity.ofFinding finding).toOption == some s

theorem count_ofFindings {findings : List Value} {t : Tally} (h : ofFindings findings = .ok t) (s : Severity) :
    t.count s = findings.countP (states s) := by
  rw [count_foldlM (p := states) ?_ h s, count_zero, Nat.zero_add]
  intro t x u hu s
  obtain ⟨s', hs', hu⟩ := Checked.bind_eq_ok.mp hu
  rw [← Checked.pure_eq_ok.mp hu, count_add]
  simp [states, hs', Except.toOption]

theorem exists_ofFindings {findings : List Value} (h : ∀ f ∈ findings, ∃ s, Severity.ofFinding f = .ok s) :
    ∃ t, ofFindings findings = .ok t := by
  unfold ofFindings
  generalize zero = t
  induction findings generalizing t with
  | nil => exact ⟨t, rfl⟩
  | cons f rest ih =>
    obtain ⟨s, hs⟩ := h f List.mem_cons_self
    obtain ⟨u, hu⟩ := ih (fun g hg => h g (List.mem_cons_of_mem f hg)) (t.add s 1)
    refine ⟨u, ?_⟩
    rw [List.foldlM_cons, hs]
    exact hu

end Tally

/-! ## The tally of an analysis -/

namespace Aggregate

/-- A value whose length is known can be gone through, and has as many items. -/
theorem items_of_length {v : Value} {n : Nat} (h : v.length = .ok n) : ∃ xs, v.items = .ok xs ∧ xs.length = n := by
  cases v with
  | list xs => exact ⟨xs, rfl, Except.ok.inj h⟩
  | tuple xs => exact ⟨xs, rfl, Except.ok.inj h⟩
  | dict fields => exact ⟨_, rfl, by simpa using Except.ok.inj h⟩
  | str s => exact ⟨_, rfl, by simpa using Except.ok.inj h⟩
  | _ => simp [Value.length] at h

theorem count_addSyscall (t : Tally) (entry : Value) (s : Severity) :
    (addSyscall t entry).count s = t.count s + if syscallSeverity entry == some s then 1 else 0 := by
  unfold addSyscall
  cases h : syscallSeverity entry with
  | none => simp
  | some s' => simp [Tally.count_add]

theorem count_foldl_addSyscall (t : Tally) (entries : List Value) (s : Severity) :
    (entries.foldl addSyscall t).count s = t.count s + entries.countP fun e => syscallSeverity e == some s := by
  induction entries generalizing t with
  | nil => simp
  | cons e rest ih =>
    rw [List.foldl_cons, ih, count_addSyscall, List.countP_cons]
    omega

def crashed (result : Value) : Bool := ((result.get "crashed" (.bool false)).toOption.map Value.truthy).getD false

theorem count_addFuzz {t u : Tally} {result : Value} (h : addFuzz t result = .ok u) (s : Severity) :
    u.count s = t.count s + if decide (s = .high) && crashed result then 1 else 0 := by
  obtain ⟨v, hv, h⟩ := Checked.bind_eq_ok.mp h
  have hc : crashed result = v.truthy := by simp [crashed, hv, Except.toOption]
  rw [← Checked.pure_eq_ok.mp h, hc]
  cases v.truthy with
  | false => simp
  | true => simp [Tally.count_add, eq_comm]

/-- What five lists of findings add up to. -/
theorem count_tallyOf {found flows syscalls activities fuzz : Value} {t : Tally}
    (h : tallyOf found flows syscalls activities fuzz = .ok t) :
    ∃ ms fs ss as zs, found.items = .ok ms ∧ flows.items = .ok fs ∧ syscalls.items = .ok ss ∧
      activities.items = .ok as ∧ fuzz.items = .ok zs ∧ ∀ s, t.count s =
        ms.countP (Tally.states s) + (if s = .critical then fs.length else 0) +
        ss.countP (fun e => syscallSeverity e == some s) + (if s = .medium then as.length else 0) +
        zs.countP fun z => decide (s = .high) && crashed z := by
  obtain ⟨ms, hms, h⟩ := Checked.bind_eq_ok.mp h
  obtain ⟨t₁, ht₁, h⟩ := Checked.bind_eq_ok.mp h
  obtain ⟨n, hn, h⟩ := Checked.bind_eq_ok.mp h
  obtain ⟨ss, hss, h⟩ := Checked.bind_eq_ok.mp h
  obtain ⟨k, hk, h⟩ := Checked.bind_eq_ok.mp h
  obtain ⟨zs, hzs, h⟩ := Checked.bind_eq_ok.mp h
  obtain ⟨fs, hfs, rfl⟩ := items_of_length hn
  obtain ⟨as, has, rfl⟩ := items_of_length hk
  refine ⟨ms, fs, ss, as, zs, hms, hfs, hss, has, hzs, fun s => ?_⟩
  have hfuzz := Tally.count_foldlM (p := fun s z => decide (s = .high) && crashed z) (fun _ _ _ => count_addFuzz) h s
  rw [hfuzz, Tally.count_add, count_foldl_addSyscall, Tally.count_add, Tally.count_ofFindings ht₁]
  simp only [eq_comm]

end Aggregate

/-! ## Risk -/

namespace Risk

theorem scoreOf_mono {t u : Tally} (h : t.le u) : scoreOf t ≤ scoreOf u := by
  obtain ⟨hc, hh, hm, hl⟩ := h
  simp only [scoreOf, points, maxScore]
  omega

theorem scoreOf_pos {t : Tally} {s : Severity} (h : 0 < t.count s) : 0 < scoreOf t := by
  simp only [scoreOf, points, maxScore]
  cases s <;> simp only [Tally.count] at h <;> omega

theorem rank_levelOf (score : Nat) :
    (levelOf score).rank = if 80 ≤ score then 3 else if 50 ≤ score then 2 else if 20 ≤ score then 1 else 0 := by
  unfold levelOf
  split
  · rfl
  · split
    · rfl
    · split <;> rfl

theorem levelOf_mono {a b : Nat} (h : a ≤ b) : (levelOf a).rank ≤ (levelOf b).rank := by
  rw [rank_levelOf, rank_levelOf]
  repeat' split
  all_goals omega

theorem exists_assess {threats : List Value} (h : ∀ v ∈ threats, ∃ s, Severity.ofFinding v = .ok s) :
    ∃ k, assess (.list threats) = .ok k := by
  obtain ⟨t, ht⟩ := Tally.exists_ofFindings h
  exact ⟨_, Checked.bind_eq_ok.mpr ⟨_, rfl, Checked.bind_eq_ok.mpr ⟨t, ht, Checked.bind_eq_ok.mpr ⟨_, rfl, rfl⟩⟩⟩⟩

theorem count_of_assess {threats : List Value} {k : Risk} (h : assess (.list threats) = .ok k) :
    ∃ t, k = ofTally t threats.length ∧ ∀ s, t.count s = threats.countP (Tally.states s) := by
  obtain ⟨items, hitems, h⟩ := Checked.bind_eq_ok.mp h
  obtain ⟨t, ht, h⟩ := Checked.bind_eq_ok.mp h
  obtain ⟨n, hn, h⟩ := Checked.bind_eq_ok.mp h
  cases hitems
  cases hn
  exact ⟨t, (Checked.pure_eq_ok.mp h).symm, Tally.count_ofFindings ht⟩

end Risk

namespace Threat

theorem ofWord_name (s : Severity) : Severity.ofWord s.name = s := by
  cases s <;> decide

theorem ofFinding_toValue (t : Threat) : Severity.ofFinding t.toValue = .ok t.kind.severity := by
  have h : t.toValue.get "severity" (.str "medium") = .ok (.str t.kind.severity.name) := by
    simp [toValue, Value.get, Value.fieldOf?]
  unfold Severity.ofFinding
  rw [h]
  exact congrArg Except.ok (ofWord_name t.kind.severity)

theorem states_toValue (s : Severity) (t : Threat) : Tally.states s t.toValue = (t.kind.severity == s) := by
  rw [Tally.states, ofFinding_toValue]
  rfl

theorem field?_tagged (path : String) (t : Threat) : (tagged path t).field? "source_file" = some (.str path) :=
  Value.fieldOf?_setField_self _ _ _

theorem ofFinding_tagged (path : String) (t : Threat) : Severity.ofFinding (tagged path t) = .ok t.kind.severity := by
  have h : (tagged path t).get "severity" (.str "medium") = .ok (.str t.kind.severity.name) := by
    simp [tagged, toValue, Value.setField, Value.get, Value.fieldOf?]
  unfold Severity.ofFinding
  rw [h]
  exact congrArg Except.ok (ofWord_name t.kind.severity)

theorem states_tagged (s : Severity) (path : String) (t : Threat) :
    Tally.states s (tagged path t) = (t.kind.severity == s) := by
  rw [Tally.states, ofFinding_tagged]
  rfl

/-- Records of threats that state the severities of their kinds are counted by them. -/
theorem countP_states_map {f : Threat → Value} {s : Severity} (hf : ∀ t, Tally.states s (f t) = (t.kind.severity == s))
    (ts : List Threat) : (ts.map f).countP (Tally.states s) = (ts.map Threat.kind).countP fun k => k.severity == s := by
  have hsame : Tally.states s ∘ f = (fun k : ThreatKind => k.severity == s) ∘ Threat.kind := funext hf
  rw [List.countP_map, List.countP_map, hsame]

/-- Threats can always be assessed, by the severities of their kinds. -/
theorem assess_toValue (ts : List Threat) : ∃ t, Risk.assess (.list (ts.map toValue)) = .ok (Risk.ofTally t ts.length) ∧
    ∀ s, t.count s = (ts.map Threat.kind).countP fun k => k.severity == s := by
  have hs : ∀ v ∈ ts.map toValue, ∃ s, Severity.ofFinding v = .ok s := by
    intro v hv
    obtain ⟨t, -, rfl⟩ := List.mem_map.mp hv
    exact ⟨t.kind.severity, ofFinding_toValue t⟩
  obtain ⟨k, hk⟩ := Risk.exists_assess hs
  obtain ⟨t, ht, hcount⟩ := Risk.count_of_assess hk
  rw [ht, List.length_map] at hk
  refine ⟨t, hk, fun s => ?_⟩
  rw [hcount, countP_states_map (states_toValue s)]

end Threat
end ThreatScan
