import ThreatScan.Proofs.Regex.Words
import ThreatScan.Proofs.Threat.Injection
import ThreatScan.Rule.Shipped
import ThreatScan.Taint.Lines
/-!
Which findings end up as evidence.

A finding is evidence of a threat if one of the tests made on its list accepts it (`reported_iff`). Matches are sorted by
marks in the name of their rule, flows by the name of their sink. What has neither a mark nor such a sink supports no threat,
however severe it was counted: the matches of one shipped rule, flows into three of the dangerous calls, and all flows found
line by line. They are reported only if the dynamic results happen to hold the same record.
-/
namespace ThreatScan

def Reported (threats : List Threat) (finding : Value) : Prop := ∃ t ∈ threats, finding ∈ t.evidence

/-- The dynamic results hold the record: as a network activity, or as a logged call that starts a program. -/
def Logged (dynamic finding : Value) : Prop :=
  finding ∈ findingsAt dynamic "network_activities" ∨
    finding ∈ findingsAt dynamic "syscalls" ∧ Threat.startsProgram finding.display = true

/-! ## Evidence and tests -/

namespace Threat

def matchTests : List (Value → Except Fault (Option Clue)) :=
  [executionMatch, ruleClue "webshell_", ruleClue "backdoor_", ruleClue "sql_injection", ruleClue "file_"]

def flowTests : List (Value → Except Fault (Option Clue)) := [executionFlow, injectionFlow]

def Accepts (test : Value → Except Fault (Option Clue)) (finding : Value) : Prop := ∃ c, test finding = .ok (some c)

theorem evidence_of_ofKind {f : Findings} {kind : ThreatKind} {t : Threat} (h : ofKind f kind = .ok (some t)) (v : Value) :
    v ∈ t.evidence ↔ ∃ c, Supports f kind c ∧ c.evidence = v := by
  obtain ⟨cs, hcs, ⟨-, ho⟩ | ⟨-, lines, -, ho⟩⟩ := ofKind_eq_ok h
  · cases ho
  · cases ho
    simp only [List.mem_map, mem_clues_iff hcs]

end Threat

theorem reported_iff_supports {static dynamic : Value} {a : Aggregate} {ts : List Threat} (h : Judged static dynamic a ts)
    (v : Value) : Reported ts v ↔ ∃ kind c, Threat.Supports a.findings kind c ∧ c.evidence = v := by
  obtain ⟨os, hos, rfl⟩ := h.threats
  constructor
  · rintro ⟨t, ht, hv⟩
    obtain ⟨-, hkind⟩ := (Threat.mem_threats_iff hos t).mp ht
    obtain ⟨c, hc⟩ := (Threat.evidence_of_ofKind hkind v).mp hv
    exact ⟨t.kind, c, hc⟩
  · rintro ⟨kind, c, hc, hv⟩
    obtain ⟨o, ho, hkind⟩ := exists_right_of_forall₂ hos (ThreatKind.mem_all kind)
    obtain ⟨t, rfl⟩ := Option.isSome_iff_exists.mp ((Threat.ofKind_isSome_iff hkind).mpr ⟨c, hc⟩)
    exact ⟨t, List.mem_filterMap.mpr ⟨some t, ho, rfl⟩, (Threat.evidence_of_ofKind hkind v).mpr ⟨c, hc, hv⟩⟩

namespace Threat

/-- A logged call as evidence: a line of the log is wrapped into a record. -/
def asEvidence : Value → Value
  | .str line => .dict [("log_entry", .str line)]
  | v => v

section Evidence
variable {v : Value} {c : Clue}

theorem evidence_of_clueAt {key : String} (h : clueAt v key = .ok c) : c.evidence = v := by
  obtain ⟨l, -, h⟩ := Checked.bind_eq_ok.mp h
  rw [← Checked.pure_eq_ok.mp h]

theorem evidence_of_executionCall (h : executionCall v = .ok (some c)) : c.evidence = asEvidence v := by
  unfold executionCall at h
  split at h
  · obtain ⟨-, ⟨⟩⟩ := Option.ite_none_right_eq_some.mp (Except.ok.inj h)
    rfl
  · obtain ⟨-, ⟨⟩⟩ := Option.ite_none_right_eq_some.mp (Except.ok.inj h)
    rfl
  · cases h

/-- A test that chooses findings makes the clue of the finding and the line under the key. -/
theorem clueAt_of_chosen {b : Bool} {key : String}
    (h : (if b then do return some (← clueAt v key) else return none : Except Fault (Option Clue)) = .ok (some c)) :
    clueAt v key = .ok c := by
  cases b with
  | false => cases h
  | true =>
    obtain ⟨c', hc', h⟩ := Checked.bind_eq_ok.mp h
    cases Checked.pure_eq_ok.mp h
    exact hc'

theorem clueAt_of_ruleClue {mark : String} (h : ruleClue mark v = .ok (some c)) : clueAt v "line" = .ok c := by
  obtain ⟨id, -, h⟩ := Checked.bind_eq_ok.mp h
  obtain ⟨b, -, h⟩ := Checked.bind_eq_ok.mp h
  exact clueAt_of_chosen h

theorem clueAt_of_executionMatch (h : executionMatch v = .ok (some c)) : clueAt v "line" = .ok c := by
  obtain ⟨id, -, h⟩ := Checked.bind_eq_ok.mp h
  obtain ⟨byRule, -, h⟩ := Checked.bind_eq_ok.mp h
  cases byRule with
  | true => exact clueAt_of_chosen (b := true) h
  | false =>
    obtain ⟨text, -, h⟩ := Checked.bind_eq_ok.mp h
    obtain ⟨chosen, -, h⟩ := Checked.bind_eq_ok.mp h
    exact clueAt_of_chosen h

theorem clueAt_of_executionFlow (h : executionFlow v = .ok (some c)) : clueAt v "sink_line" = .ok c := by
  obtain ⟨field, -, h⟩ := Checked.bind_eq_ok.mp h
  obtain ⟨sink, -, h⟩ := Checked.bind_eq_ok.mp h
  exact clueAt_of_chosen h

/-- A flow from the command line into a command is a flow into a call that starts a program. -/
theorem executionFlow_of_injectionFlow (h : injectionFlow v = .ok (some c)) : executionFlow v = .ok (some c) := by
  obtain ⟨field, -, h⟩ := Checked.bind_eq_ok.mp h
  obtain ⟨source, -, h⟩ := Checked.bind_eq_ok.mp h
  split at h
  · cases h
  · obtain ⟨field, hfield, h⟩ := Checked.bind_eq_ok.mp h
    obtain ⟨sink, hsink, h⟩ := Checked.bind_eq_ok.mp h
    refine Checked.bind_eq_ok.mpr ⟨field, hfield, Checked.bind_eq_ok.mpr ⟨sink, hsink, ?_⟩⟩
    cases hstarts : Text.startsWith sink "os.system" with
    | false =>
      rw [hstarts] at h
      cases h
    | true =>
      rw [hstarts] at h
      exact h

theorem clueAt_of_matchTest {test : Value → Except Fault (Option Clue)} (ht : test ∈ matchTests)
    (h : test v = .ok (some c)) : clueAt v "line" = .ok c := by
  simp only [matchTests, List.mem_cons, List.not_mem_nil, or_false] at ht
  rcases ht with rfl | rfl | rfl | rfl | rfl
  · exact clueAt_of_executionMatch h
  · exact clueAt_of_ruleClue h
  · exact clueAt_of_ruleClue h
  · exact clueAt_of_ruleClue h
  · exact clueAt_of_ruleClue h

theorem clueAt_of_flowTest {test : Value → Except Fault (Option Clue)} (ht : test ∈ flowTests)
    (h : test v = .ok (some c)) : clueAt v "sink_line" = .ok c := by
  simp only [flowTests, List.mem_cons, List.not_mem_nil, or_false] at ht
  rcases ht with rfl | rfl
  · exact clueAt_of_executionFlow h
  · exact clueAt_of_executionFlow (executionFlow_of_injectionFlow h)

theorem evidence_of_matchTest {test : Value → Except Fault (Option Clue)} (ht : test ∈ matchTests)
    (h : test v = .ok (some c)) : c.evidence = v := evidence_of_clueAt (clueAt_of_matchTest ht h)

theorem evidence_of_flowTest {test : Value → Except Fault (Option Clue)} (ht : test ∈ flowTests)
    (h : test v = .ok (some c)) : c.evidence = v := evidence_of_clueAt (clueAt_of_flowTest ht h)

theorem evidence_of_crashClue (h : crashClue v = .ok (some c)) : c.evidence = v := by
  obtain ⟨crashed, -, h⟩ := Checked.bind_eq_ok.mp h
  obtain ⟨-, ⟨⟩⟩ := Option.ite_none_right_eq_some.mp (Checked.pure_eq_ok.mp h)
  rfl

theorem exists_activityClue {o : Option Clue} (h : activityClue v = .ok o) : ∃ c, o = some c ∧ c.evidence = v := by
  unfold activityClue at h
  split at h
  · exact ⟨_, (Except.ok.inj h).symm, rfl⟩
  · obtain ⟨line, -, h⟩ := Checked.bind_eq_ok.mp h
    exact ⟨_, (Checked.pure_eq_ok.mp h).symm, rfl⟩
  · cases h

end Evidence

/-! ## Tests by the list that they are made on -/

theorem mem_clueSources {kind : ThreatKind} {s : (Findings → Value) × (Value → Except Fault (Option Clue))}
    (h : s ∈ clueSources kind) :
    s.1 = Findings.patternMatches ∧ s.2 ∈ matchTests ∨ s.1 = Findings.taintFlows ∧ s.2 ∈ flowTests ∨
      s = (Findings.networkActivities, activityClue) ∨ s = (Findings.syscalls, executionCall) ∨
      s = (Findings.fuzzResults, crashClue) := by
  cases kind <;> simp only [clueSources, List.mem_cons, List.not_mem_nil, or_false] at h
  case remoteExecution => rcases h with rfl | rfl | rfl <;> simp [matchTests, flowTests]
  all_goals simp [h, matchTests, flowTests]

theorem exists_kind_of_matchTest {test : Value → Except Fault (Option Clue)} (h : test ∈ matchTests) :
    ∃ kind, (Findings.patternMatches, test) ∈ clueSources kind := by
  simp only [matchTests, List.mem_cons, List.not_mem_nil, or_false] at h
  rcases h with rfl | rfl | rfl | rfl | rfl
  · exact ⟨.remoteExecution, by simp [clueSources]⟩
  · exact ⟨.webShell, by simp [clueSources]⟩
  · exact ⟨.backdoor, by simp [clueSources]⟩
  · exact ⟨.sqlInjection, by simp [clueSources]⟩
  · exact ⟨.fileRisk, by simp [clueSources]⟩

theorem exists_kind_of_flowTest {test : Value → Except Fault (Option Clue)} (h : test ∈ flowTests) :
    ∃ kind, (Findings.taintFlows, test) ∈ clueSources kind := by
  simp only [flowTests, List.mem_cons, List.not_mem_nil, or_false] at h
  rcases h with rfl | rfl
  · exact ⟨.remoteExecution, by simp [clueSources]⟩
  · exact ⟨.commandInjection, by simp [clueSources]⟩

/-! ## Records -/

theorem get_of_field? {v : Value} {key : String} (hkind : v.kind = .dict) (h : v.field? key = none) (default : Value) :
    v.get key default = .ok default := by
  cases v with
  | dict fields =>
    have hnone : Value.fieldOf? key fields = none := h
    simp [Value.get, hnone]
  | _ => cases hkind

/-- A record that is neither made of a line of the log nor that of a crash. -/
structure IsFinding (v : Value) : Prop where
  kind : v.kind = .dict
  noLogEntry : v.field? "log_entry" = none
  noCrash : v.field? "crashed" = none

variable {v : Value} {c : Clue}

theorem IsFinding.not_crash (hv : IsFinding v) : crashClue v ≠ .ok (some c) := by
  unfold crashClue
  rw [get_of_field? hv.kind hv.noCrash]
  intro h
  cases h

theorem executionCall_of_kind (hkind : v.kind = .dict) :
    executionCall v = .ok (if startsProgram v.display then some ⟨v, none⟩ else none) := by
  cases v with
  | dict fields => rfl
  | _ => cases hkind

theorem IsFinding.eq_of_executionCall (hv : IsFinding v) {x : Value} (h : executionCall x = .ok (some c))
    (hc : c.evidence = v) : x = v ∧ startsProgram v.display = true := by
  subst hc
  unfold executionCall at h
  split at h
  · obtain ⟨hstarts, ⟨⟩⟩ := Option.ite_none_right_eq_some.mp (Except.ok.inj h)
    exact ⟨rfl, hstarts⟩
  · obtain ⟨-, ⟨⟩⟩ := Option.ite_none_right_eq_some.mp (Except.ok.inj h)
    cases hv.noLogEntry
  · cases h

end Threat

/-- Where threats could be looked for, every network activity is a clue. -/
theorem supports_of_activity {static dynamic : Value} {a : Aggregate} {ts : List Threat} (h : Judged static dynamic a ts)
    {v : Value} (hv : v ∈ findingsAt dynamic "network_activities") :
    ∃ c, Threat.Supports a.findings .exfiltration c ∧ c.evidence = v := by
  obtain ⟨-, -, -, hna, -⟩ := Aggregate.items_of_ofResults h.aggregated
  obtain ⟨os, hos, -⟩ := h.threats
  obtain ⟨o, -, hkind⟩ := exists_right_of_forall₂ hos (ThreatKind.mem_all .exfiltration)
  obtain ⟨cs, hcs, -⟩ := Threat.ofKind_eq_ok hkind
  have hcs : Threat.cluesIn a.findings.networkActivities Threat.activityClue = .ok cs := hcs
  obtain ⟨xs, hxs, hcs⟩ := Checked.bind_eq_ok.mp hcs
  cases hna.symm.trans hxs
  obtain ⟨os, hos, -⟩ := Checked.bind_eq_ok.mp hcs
  obtain ⟨o, -, ho⟩ := exists_right_of_forall₂ (Checked.mapM_eq_ok.mp hos) hv
  obtain ⟨c, rfl, hc⟩ := Threat.exists_activityClue ho
  exact ⟨c, ⟨_, List.mem_singleton.mpr rfl, _, hna, v, hv, ho⟩, hc⟩

/-- A record is reported if it is a match or a flow that a test accepts, or if the dynamic results hold it too. -/
theorem reported_iff {static dynamic : Value} {a : Aggregate} {ts : List Threat} (h : Judged static dynamic a ts) {v : Value}
    (hv : Threat.IsFinding v) : Reported ts v ↔
      v ∈ findingsAt static "pattern_matches" ∧ (∃ test ∈ Threat.matchTests, Threat.Accepts test v) ∨
      v ∈ findingsAt static "taint_flows" ∧ (∃ test ∈ Threat.flowTests, Threat.Accepts test v) ∨ Logged dynamic v := by
  rw [reported_iff_supports h]
  obtain ⟨hpm, htf, hsc, hna, -⟩ := Aggregate.items_of_ofResults h.aggregated
  constructor
  · rintro ⟨kind, c, ⟨⟨list, test⟩, hs, xs, hxs, x, hx, hc⟩, hev⟩
    dsimp only at hxs hc
    rcases Threat.mem_clueSources hs with ⟨rfl, ht⟩ | ⟨rfl, ht⟩ | ⟨⟨⟩⟩ | ⟨⟨⟩⟩ | ⟨⟨⟩⟩
    · cases hpm.symm.trans hxs
      cases (Threat.evidence_of_matchTest ht hc).symm.trans hev
      exact .inl ⟨hx, test, ht, c, hc⟩
    · cases htf.symm.trans hxs
      cases (Threat.evidence_of_flowTest ht hc).symm.trans hev
      exact .inr (.inl ⟨hx, test, ht, c, hc⟩)
    · cases hna.symm.trans hxs
      obtain ⟨c', ⟨⟩, hc'⟩ := Threat.exists_activityClue hc
      cases hc'.symm.trans hev
      exact .inr (.inr (.inl hx))
    · cases hsc.symm.trans hxs
      obtain ⟨rfl, hstarts⟩ := hv.eq_of_executionCall hc hev
      exact .inr (.inr (.inr ⟨hx, hstarts⟩))
    · cases (Threat.evidence_of_crashClue hc).symm.trans hev
      exact absurd hc hv.not_crash
  · rintro (⟨hm, test, ht, c, hc⟩ | ⟨hm, test, ht, c, hc⟩ | hm | ⟨hm, hstarts⟩)
    · obtain ⟨kind, hs⟩ := Threat.exists_kind_of_matchTest ht
      exact ⟨kind, c, ⟨_, hs, _, hpm, v, hm, hc⟩, Threat.evidence_of_matchTest ht hc⟩
    · obtain ⟨kind, hs⟩ := Threat.exists_kind_of_flowTest ht
      exact ⟨kind, c, ⟨_, hs, _, htf, v, hm, hc⟩, Threat.evidence_of_flowTest ht hc⟩
    · exact ⟨.exfiltration, supports_of_activity h hm⟩
    · have hc : Threat.executionCall v = .ok (some ⟨v, none⟩) := by
        rw [Threat.executionCall_of_kind hv.kind, if_pos hstarts]
      have hs : (Threat.Findings.syscalls, Threat.executionCall) ∈ Threat.clueSources .remoteExecution := by
        simp [Threat.clueSources]
      exact ⟨.remoteExecution, ⟨v, none⟩, ⟨_, hs, _, hsc, v, hm, hc⟩, rfl⟩

namespace Threat

/-! ## Matches of rules -/

/-- The marks by which the names of rules are sorted. -/
def ruleMarks : List String := ["rce_", "webshell_", "backdoor_", "sql_injection", "file_"]

theorem isFinding_match (m : RuleMatch) : IsFinding m.toValue := ⟨rfl, rfl, rfl⟩

section Match
variable {m : RuleMatch} {id : String} (hid : m.rule.id = .str id)
include hid

theorem ruleClue_match (mark : String) : ruleClue mark m.toValue =
    .ok (if Text.contains id mark then some ⟨m.toValue, some (.int m.line)⟩ else none) := by
  have hget : m.toValue.get "rule_id" (.str "") = .ok (.str id) := congrArg Except.ok hid
  refine Checked.bind_eq_ok.mpr ⟨_, hget, ?_⟩
  refine Checked.bind_eq_ok.mpr ⟨Text.contains id mark, rfl, ?_⟩
  cases Text.contains id mark <;> rfl

theorem executionMatch_match : executionMatch m.toValue =
    .ok (if Text.contains id "rce_" || Text.contains m.text "os.system"
      then some ⟨m.toValue, some (.int m.line)⟩ else none) := by
  have hget : m.toValue.get "rule_id" (.str "") = .ok (.str id) := congrArg Except.ok hid
  refine Checked.bind_eq_ok.mpr ⟨_, hget, ?_⟩
  refine Checked.bind_eq_ok.mpr ⟨Text.contains id "rce_", rfl, ?_⟩
  cases Text.contains id "rce_" with
  | true => rfl
  | false =>
    refine Checked.bind_eq_ok.mpr ⟨.str m.text, rfl, ?_⟩
    refine Checked.bind_eq_ok.mpr ⟨Text.contains m.text "os.system", rfl, ?_⟩
    cases Text.contains m.text "os.system" <;> rfl

/-- A match supports a threat if the name of its rule has a mark, or its text starts a program. -/
theorem exists_matchTest_iff : (∃ test ∈ matchTests, Accepts test m.toValue) ↔
    ruleMarks.any (Text.contains id ·) = true ∨ Text.contains m.text "os.system" = true := by
  have hrule : ∀ mark, Accepts (ruleClue mark) m.toValue ↔ Text.contains id mark = true := by
    intro mark
    rw [Accepts, ruleClue_match hid]
    cases Text.contains id mark <;> simp
  have hexec : Accepts executionMatch m.toValue ↔
      Text.contains id "rce_" = true ∨ Text.contains m.text "os.system" = true := by
    rw [Accepts, executionMatch_match hid]
    cases Text.contains id "rce_" <;> cases Text.contains m.text "os.system" <;> simp
  simp only [matchTests, List.exists_mem_cons_iff, hrule, hexec, List.not_mem_nil, false_and, exists_false, or_false]
  simp only [ruleMarks, List.any_cons, List.any_nil, Bool.or_eq_true, Bool.or_false]
  rw [or_right_comm, or_assoc]

end Match

/-! ## Records without the fields that are tested -/

/-- What names no rule and no text is no match. -/
theorem not_matchTest {v : Value} (hkind : v.kind = .dict) (hid : v.field? "rule_id" = none)
    (htext : v.field? "matched_text" = none) : ¬ ∃ test ∈ matchTests, Accepts test v := by
  have hget := get_of_field? hkind hid (.str "")
  have hrule : ∀ mark, Text.contains "" mark = false → ruleClue mark v = .ok none := by
    intro mark hmark
    refine Checked.bind_eq_ok.mpr ⟨_, hget, ?_⟩
    exact Checked.bind_eq_ok.mpr ⟨Text.contains "" mark, rfl, by rw [hmark]; rfl⟩
  have hexec : executionMatch v = .ok none := by
    refine Checked.bind_eq_ok.mpr ⟨_, hget, ?_⟩
    refine Checked.bind_eq_ok.mpr ⟨false, rfl, ?_⟩
    exact Checked.bind_eq_ok.mpr ⟨_, get_of_field? hkind htext (.str ""), rfl⟩
  simp [matchTests, Accepts, hexec, hrule _ (rfl : Text.contains "" "webshell_" = false),
    hrule _ (rfl : Text.contains "" "backdoor_" = false), hrule _ (rfl : Text.contains "" "sql_injection" = false),
    hrule _ (rfl : Text.contains "" "file_" = false)]

theorem not_flowTest {v : Value} (hkind : v.kind = .dict) (hsource : v.field? "source" = none)
    (hsink : v.field? "sink" = none) : ¬ ∃ test ∈ flowTests, Accepts test v := by
  have hexec : executionFlow v = .ok none :=
    Checked.bind_eq_ok.mpr ⟨_, get_of_field? hkind hsink (.str ""), rfl⟩
  have hinject : injectionFlow v = .ok none :=
    Checked.bind_eq_ok.mpr ⟨_, get_of_field? hkind hsource (.str ""), rfl⟩
  simp [flowTests, Accepts, hexec, hinject]

end Threat

/-! ## Shipped rules -/

/-- The match is one that a shipped rule makes in some text. -/
def ShippedMatch (m : RuleMatch) : Prop :=
  ∃ rule ∈ shippedRules, ∃ r source, Rule.ofValue rule = .ok r ∧ m ∈ r.scan regexEngine (Text.lines source)

/-- The rule whose name has no mark although its findings are critical. -/
def unmarkedRule : String := "go_os_exec"

def unmarkedPattern : String := "os/exec|exec\\.(Command|Run|Start)"

/-- The name of a critical rule has a mark, unless it is the one rule without. -/
def Rule.isSorted (r : Rule) : Bool :=
  match r.id, r.pattern, r.severity with
  | .str id, .str pattern, .str severity =>
    let marked := Threat.ruleMarks.any (Text.contains id ·)
    Severity.ofWord severity != .critical || (if id == unmarkedRule then pattern == unmarkedPattern && !marked else marked)
  | _, _, _ => false

theorem all_shippedRules_sorted : (shippedRules.all fun v => (Rule.ofValue v).toOption.any Rule.isSorted) = true := by
  decide

theorem words_unmarkedPattern : (Regex.compile? unmarkedPattern).bind (·.pattern.words?) =
    some (["os/exec", "exec.Command", "exec.Run", "exec.Start"].map String.toList) := by
  decide +kernel

theorem isSorted_of_shippedMatch {m : RuleMatch} (h : ShippedMatch m) : m.rule.isSorted = true := by
  obtain ⟨rule, hmem, r, source, hr, hm⟩ := h
  rw [(Rule.mem_scan hm).1]
  have hall := List.all_eq_true.mp all_shippedRules_sorted rule hmem
  rwa [hr] at hall

/-- The texts that the rule without a mark finds start no program. -/
theorem not_contains_of_unmarked {m : RuleMatch} (h : ShippedMatch m) (hp : m.rule.pattern = .str unmarkedPattern) :
    Text.contains m.text "os.system" = false := by
  obtain ⟨rule, -, r, source, -, hm⟩ := h
  rw [(Rule.mem_scan hm).1] at hp
  obtain ⟨p, hcompile, hwords⟩ := Option.bind_eq_some_iff.mp words_unmarkedPattern
  have htext := Rule.text_mem_words_of_scan hp hcompile hwords hm
  have hnone : ∀ w ∈ ["os/exec", "exec.Command", "exec.Run", "exec.Start"].map String.toList,
      Text.hasInfix "os.system".toList w = false := by
    decide
  exact hnone _ htext

/-- A critical match of a shipped rule supports a threat exactly if it is not of the rule without a mark. -/
theorem exists_matchTest_iff_of_shippedMatch {m : RuleMatch} (h : ShippedMatch m)
    (hs : Tally.states .critical m.toValue = true) :
    (∃ test ∈ Threat.matchTests, Threat.Accepts test m.toValue) ↔ m.rule.id ≠ .str unmarkedRule := by
  have hsorted := isSorted_of_shippedMatch h
  unfold Rule.isSorted at hsorted
  split at hsorted
  · next id pattern severity hid hpattern hseverity =>
    have hfinding : Severity.ofFinding m.toValue = .ok (Severity.ofWord severity) := by
      have hget : m.toValue.get "severity" (.str "medium") = .ok (.str severity) := congrArg Except.ok hseverity
      unfold Severity.ofFinding
      rw [hget]
      rfl
    have hcritical : Severity.ofWord severity = .critical := by
      simpa [Tally.states, hfinding, Except.toOption] using hs
    rw [Threat.exists_matchTest_iff hid, hid]
    simp only [hcritical, bne_self_eq_false, Bool.false_or, beq_iff_eq] at hsorted
    split at hsorted
    · next hname =>
      obtain ⟨hp, hmarks⟩ := Bool.and_eq_true_iff.mp hsorted
      have hp : m.rule.pattern = .str unmarkedPattern := by rw [hpattern, beq_iff_eq.mp hp]
      rw [Bool.not_eq_true'] at hmarks
      rw [hmarks, not_contains_of_unmarked h hp, hname]
      simp
    · next hname => simp [hsorted, hname]
  · cases hsorted

/-! ## Flows -/

theorem isFinding_taintFlow (f : TaintFlow) : Threat.IsFinding f.toValue := by
  unfold TaintFlow.toValue
  cases f.via <;> exact ⟨rfl, rfl, rfl⟩

theorem isFinding_lineFlow (f : LineFlow) : Threat.IsFinding f.toValue := ⟨rfl, rfl, rfl⟩

/-- A dangerous call starts a program by the tests on flows unless it is one of three. -/
theorem startsProgram_iff_of_dangerousCall? {t : Tree} {sink : String} (h : t.dangerousCall? = some sink) :
    (Text.startsWith sink "os.system" || Text.contains sink "subprocess") = true ↔ sink ∉ ["eval", "exec", "os.popen"] := by
  have hsink := Tree.mem_of_dangerousCall? h
  simp only [List.mem_cons, List.not_mem_nil, or_false] at hsink
  rcases hsink with rfl | rfl | rfl | rfl | rfl | rfl | rfl <;> decide

/-- A flow in a tree supports a threat unless its sink is one of these three. -/
theorem exists_flowTest_iff {t : Tree} {f : TaintFlow} (hf : f ∈ t.taintFlows) :
    (∃ test ∈ Threat.flowTests, Threat.Accepts test f.toValue) ↔ f.sink ∉ ["eval", "exec", "os.popen"] := by
  obtain ⟨a, ha, hrec⟩ := exists_argument_of_mem_flows (List.mem_map_of_mem hf)
  have hsink : f.sink = a.sink := by
    have hget : f.toValue.get "sink" (.str "") = .ok (.str f.sink) := rfl
    exact Value.str.inj (Except.ok.inj (hget.symm.trans hrec.fields.2.1))
  rw [hsink, ← startsProgram_iff_of_dangerousCall? (dangerousCall?_of_mem_sinkArguments ha)]
  have hexec : Threat.Accepts Threat.executionFlow f.toValue ↔
      (Text.startsWith a.sink "os.system" || Text.contains a.sink "subprocess") = true := by
    rw [Threat.Accepts, Threat.executionFlow_of_record hrec]
    cases Text.startsWith a.sink "os.system" || Text.contains a.sink "subprocess" <;> simp
  -- a flow into a command starts a program, so the second test accepts nothing that the first does not
  have hinject : Threat.Accepts Threat.injectionFlow f.toValue → Text.startsWith a.sink "os.system" = true := by
    rintro ⟨c, hc⟩
    rw [Threat.injectionFlow_of_record hrec] at hc
    obtain ⟨hboth, -⟩ := Option.ite_none_right_eq_some.mp (Except.ok.inj hc)
    exact (Bool.and_eq_true_iff.mp hboth).2
  rw [← hexec]
  constructor
  · rintro ⟨test, ht, hacc⟩
    simp only [Threat.flowTests, List.mem_cons, List.not_mem_nil, or_false] at ht
    rcases ht with rfl | rfl
    · exact hacc
    · exact hexec.mpr (by rw [hinject hacc, Bool.true_or])
  · intro hacc
    exact ⟨_, List.mem_cons_self, hacc⟩

/-! ## What is dropped -/

/-- Of the critical findings, reported are the matches of all shipped rules but one, and the flows in a tree into all but
three of the dangerous calls; no other match and no other flow is, unless the dynamic results hold the same record. All of
them are counted as critical. -/
theorem critical_finding_reported_iff {static dynamic : Value} {a : Aggregate} {ts : List Threat}
    (h : Judged static dynamic a ts) :
    (∀ m, ShippedMatch m → Tally.states .critical m.toValue = true → m.toValue ∈ findingsAt static "pattern_matches" →
      (Reported ts m.toValue ↔ m.rule.id ≠ .str "go_os_exec" ∨ Logged dynamic m.toValue)) ∧
    (∀ (t : Tree) (f : TaintFlow), f ∈ t.taintFlows → f.toValue ∈ findingsAt static "taint_flows" →
      (Reported ts f.toValue ↔ f.sink ∉ ["eval", "exec", "os.popen"] ∨ Logged dynamic f.toValue)) ∧
    (∀ w ∈ [goTaintWords, javaTaintWords], ∀ (source : String) (f : LineFlow), f ∈ w.flows source →
      f.toValue ∈ findingsAt static "taint_flows" → (Reported ts f.toValue ↔ Logged dynamic f.toValue)) ∧
    (findingsAt static "pattern_matches").countP (Tally.states .critical) + (findingsAt static "taint_flows").length ≤
      a.tally.critical := by
  refine ⟨fun m hm hs hmem => ?_, fun t f hf hmem => ?_, fun w _ source f _ hmem => ?_, ?_⟩
  · have hflow := Threat.not_flowTest (v := m.toValue) rfl rfl rfl
    rw [reported_iff h (Threat.isFinding_match m), exists_matchTest_iff_of_shippedMatch hm hs]
    simp only [hmem, hflow, true_and, and_false, false_or]
    rfl
  · have hfinding := isFinding_taintFlow f
    have hmatch : ¬ ∃ test ∈ Threat.matchTests, Threat.Accepts test f.toValue := by
      apply Threat.not_matchTest hfinding.kind
      · unfold TaintFlow.toValue
        cases f.via <;> rfl
      · unfold TaintFlow.toValue
        cases f.via <;> rfl
    rw [reported_iff h hfinding, exists_flowTest_iff hf]
    simp only [hmem, hmatch, true_and, and_false, false_or]
  · have hmatch := Threat.not_matchTest (v := f.toValue) rfl rfl rfl
    have hflow := Threat.not_flowTest (v := f.toValue) rfl rfl rfl
    rw [reported_iff h (isFinding_lineFlow f)]
    simp only [hmatch, hflow, and_false, false_or]
  · obtain ⟨-, -, -, -, -, hcount⟩ := Aggregate.items_of_ofResults h.aggregated
    have hcritical := hcount .critical
    simp only [Tally.count, if_true] at hcritical
    omega

namespace DroppedFindings

/-- A command made of an argument, in Go. -/
def goText : String := "x := os.Args[1]\nexec.Run(x)"

def execRule : Rule where
  id := .str "go_os_exec"
  name := .str "Go RCE - os/exec Usage"
  pattern := .str unmarkedPattern
  severity := .str "critical"
  description := .str "Detects os/exec package usage for command execution"

def execRun : RuleMatch := ⟨execRule, 2, "exec.Run", goText, 0⟩

def execFlow : LineFlow := ⟨1, "x := os.Args[1]", 2, "exec.Run(x)"⟩

theorem shippedMatch_execRun : ShippedMatch execRun := by
  have hfind : (regexEngine unmarkedPattern).map (fun find => (find "x := os.Args[1]", find "exec.Run(x)")) =
      some (⟨[], false⟩, ⟨[⟨0, "exec.Run"⟩], false⟩) := by
    decide +kernel
  obtain ⟨find, hengine, hscan⟩ := Option.map_eq_some_iff.mp hfind
  obtain ⟨hfirst, hsecond⟩ := Prod.mk.inj hscan
  have hfinder : execRule.finder? regexEngine = some find := hengine
  have hlines : Text.lines goText = ["x := os.Args[1]", "exec.Run(x)"] := by decide
  refine ⟨_, List.mem_of_getElem? (rfl : shippedRules[25]? = some _), execRule, goText, rfl, ?_⟩
  have hcontext : Rule.contextOf ["x := os.Args[1]", "exec.Run(x)"] 2 = goText := by decide
  simp [Rule.scan, hfinder, hlines, Rule.scanFrom, Rule.onLine, hfirst, hsecond, hcontext, execRun]

theorem mem_execFlow : execFlow ∈ goTaintWords.flows goText := by
  decide

/-- `eval(input())` -/
def evalInput : Tree :=
  let nameAt (column : Nat) (x : String) : Tree :=
    .node "Name" (some ⟨1, column⟩) [("id", .name x), ("ctx", .node "Load" none [])]
  let callAt (column : Nat) (f : String) (args : List Tree) : Tree :=
    .node "Call" (some ⟨1, column⟩) [("func", nameAt column f), ("args", .list args), ("keywords", .list [])]
  .node "Module" none [("body", .list [.node "Expr" (some ⟨1, 0⟩) [("value", callAt 0 "eval" [callAt 5 "input" []])]]),
    ("type_ignores", .list [])]

def evalFlow : TaintFlow := ⟨"input(...)", "eval", 1, 1, none⟩

theorem mem_evalFlow : evalFlow ∈ evalInput.taintFlows := by
  decide

def resultsOf (found flows : List Value) : Value := .dict [("pattern_matches", .list found), ("taint_flows", .list flows)]

theorem states_execRun : Tally.states .critical execRun.toValue = true := by decide

/-- One finding of each sort that is dropped: the theorem tells that none of the three is reported. -/
theorem dropped_findings_not_reported :
    let static := resultsOf [execRun.toValue] [execFlow.toValue, evalFlow.toValue]
    ShippedMatch execRun ∧ Tally.states .critical execRun.toValue = true ∧ execFlow ∈ goTaintWords.flows goText ∧
    evalFlow ∈ evalInput.taintFlows ∧ ∃ a ts, Judged static .null a ts ∧ ¬ Reported ts execRun.toValue ∧
      ¬ Reported ts evalFlow.toValue ∧ ¬ Reported ts execFlow.toValue ∧ 3 ≤ a.tally.critical := by
  intro static
  refine ⟨shippedMatch_execRun, states_execRun, mem_execFlow, mem_evalFlow, ?_⟩
  obtain ⟨a, hj⟩ : ∃ a, Judged static .null a [] := ⟨_, rfl, rfl⟩
  have hlogged : ∀ v, ¬ Logged .null v := by
    rintro v (h | ⟨h, -⟩) <;> cases h
  obtain ⟨hmatch, htree, hline, hcount⟩ := critical_finding_reported_iff hj
  refine ⟨a, [], hj, ?_, ?_, ?_, ?_⟩
  · rw [hmatch execRun shippedMatch_execRun states_execRun List.mem_cons_self]
    simp [hlogged, execRun, execRule]
  · rw [htree evalInput evalFlow mem_evalFlow (List.mem_cons_of_mem _ List.mem_cons_self)]
    simp [hlogged, evalFlow]
  · rw [hline goTaintWords List.mem_cons_self goText execFlow mem_execFlow List.mem_cons_self]
    exact hlogged _
  · have hfound : findingsAt static "pattern_matches" = [execRun.toValue] := rfl
    have hflows : findingsAt static "taint_flows" = [execFlow.toValue, evalFlow.toValue] := rfl
    simpa [hfound, hflows, states_execRun] using hcount

/-- A Go program that runs a command made of its argument: the match and the flow are both counted as critical, and there is
no threat at all. -/
theorem go_command_counted_without_threat :
    ShippedMatch execRun ∧ execFlow ∈ goTaintWords.flows goText ∧
    ∃ a, Judged (resultsOf [execRun.toValue] [execFlow.toValue]) .null a [] ∧ a.tally.critical = 2 :=
  ⟨shippedMatch_execRun, mem_execFlow, _, ⟨rfl, rfl⟩, rfl⟩

end DroppedFindings
end ThreatScan
