import ThreatScan.Proofs.Threat.Reported
/-!
Threats have grounds.

Nothing in a threat is made up. Its evidence is a part of the findings, in their order (`evidence_sublist`), where a line of a
log stands in a record of its own (`asEvidence`). Its line numbers are positive and increase, and each of them is a line that
one of the findings in its evidence points at, or the number in a log line that is evidence (`pointed_of_mem_lines`). What is
evidence of a command injection is also evidence of remote execution, so the one is never reported without the other.
-/
namespace ThreatScan
namespace Threat

/-! ## The findings of an aggregated result -/

/-- The findings under a key in the results of one of the two analyses. -/
def foundIn (aggregated : Value) (part key : String) : List Value :=
  findingsAt ((aggregated.get part (.dict [])).toOption.getD .null) key

def allFindings (aggregated : Value) : List Value :=
  foundIn aggregated "static" "pattern_matches" ++ foundIn aggregated "static" "taint_flows" ++
    (foundIn aggregated "dynamic" "syscalls").map asEvidence ++ foundIn aggregated "dynamic" "network_activities" ++
    foundIn aggregated "dynamic" "fuzz_results"

/-- The lists that threats are looked for in are those of the aggregated result. -/
structure Read (aggregated : Value) (f : Findings) : Prop where
  patternMatches : f.patternMatches.items = .ok (foundIn aggregated "static" "pattern_matches")
  taintFlows : f.taintFlows.items = .ok (foundIn aggregated "static" "taint_flows")
  syscalls : f.syscalls.items = .ok (foundIn aggregated "dynamic" "syscalls")
  networkActivities : f.networkActivities.items = .ok (foundIn aggregated "dynamic" "network_activities")
  fuzzResults : f.fuzzResults.items = .ok (foundIn aggregated "dynamic" "fuzz_results")

theorem items_of_cluesIn {results found : Value} {key : String} {test : Value → Except Fault (Option Clue)} {cs : List Clue}
    (hget : results.get key (.list []) = .ok found) (h : cluesIn found test = .ok cs) :
    found.items = .ok (findingsAt results key) := by
  obtain ⟨xs, hxs, -⟩ := cluesIn_eq_ok h
  rw [findingsAt_of_get hget hxs, hxs]

/-- Every list is gone through for some kind of threat, so where no kind fails, every list could be read. -/
theorem read_of_clues {aggregated : Value} {f : Findings} (hf : Findings.ofAggregated aggregated = .ok f)
    (h : ∀ kind, ∃ cs, clues f kind = .ok cs) : Read aggregated f := by
  obtain ⟨static, hstatic, hf⟩ := Checked.bind_eq_ok.mp hf
  obtain ⟨dynamic, hdynamic, hf⟩ := Checked.bind_eq_ok.mp hf
  obtain ⟨pm, hpm, hf⟩ := Checked.bind_eq_ok.mp hf
  obtain ⟨tf, htf, hf⟩ := Checked.bind_eq_ok.mp hf
  obtain ⟨na, hna, hf⟩ := Checked.bind_eq_ok.mp hf
  obtain ⟨sc, hsc, hf⟩ := Checked.bind_eq_ok.mp hf
  obtain ⟨fr, hfr, hf⟩ := Checked.bind_eq_ok.mp hf
  cases Checked.pure_eq_ok.mp hf
  have hs : ∀ key, foundIn aggregated "static" key = findingsAt static key := fun key => by rw [foundIn, hstatic]; rfl
  have hd : ∀ key, foundIn aggregated "dynamic" key = findingsAt dynamic key := fun key => by rw [foundIn, hdynamic]; rfl
  obtain ⟨shells, hshells⟩ := h .webShell
  obtain ⟨injections, hinjections⟩ := h .commandInjection
  obtain ⟨activities, hactivities⟩ := h .exfiltration
  obtain ⟨crashes, hcrashes⟩ := h .crash
  obtain ⟨runs, hruns⟩ := h .remoteExecution
  obtain ⟨_, -, hruns⟩ := Checked.bind_eq_ok.mp hruns
  obtain ⟨_, -, hruns⟩ := Checked.bind_eq_ok.mp hruns
  obtain ⟨calls, hcalls, -⟩ := Checked.bind_eq_ok.mp hruns
  refine ⟨?_, ?_, ?_, ?_, ?_⟩
  · rw [hs]
    exact items_of_cluesIn hpm hshells
  · rw [hs]
    exact items_of_cluesIn htf hinjections
  · rw [hd]
    exact items_of_cluesIn hsc hcalls
  · rw [hd]
    exact items_of_cluesIn hna hactivities
  · rw [hd]
    exact items_of_cluesIn hfr hcrashes

/-! ## Evidence -/

section Evidence
variable {aggregated : Value} {f : Findings} {kind : ThreatKind} {cs : List Clue} (hr : Read aggregated f)

theorem sublist_of_tests {test : Value → Except Fault (Option Clue)} {g : Value → Value} {xs : List Value}
    {os : List (Option Clue)} (hg : ∀ x c, test x = .ok (some c) → c.evidence = g x)
    (h : List.Forall₂ (fun x o => test x = .ok o) xs os) : ((os.filterMap id).map Clue.evidence).Sublist (xs.map g) := by
  induction h with
  | nil => exact List.Sublist.slnil
  | @cons x o xs os ho _ ih =>
    cases o with
    | none => exact ih.cons (g x)
    | some c =>
      rw [List.map_cons, ← hg x c ho]
      exact ih.cons_cons c.evidence

/-- Clues in a list have items of the list as evidence, in their order. -/
theorem evidence_of_cluesIn {found : Value} {test : Value → Except Fault (Option Clue)} {xs : List Value} {g : Value → Value}
    (hx : found.items = .ok xs) (hg : ∀ x c, test x = .ok (some c) → c.evidence = g x) (h : cluesIn found test = .ok cs) :
    (cs.map Clue.evidence).Sublist (xs.map g) := by
  obtain ⟨ys, hys, h⟩ := Checked.bind_eq_ok.mp h
  cases hx.symm.trans hys
  obtain ⟨os, hos, h⟩ := Checked.bind_eq_ok.mp h
  rw [← Checked.pure_eq_ok.mp h]
  exact sublist_of_tests hg (Checked.mapM_eq_ok.mp hos)

theorem evidence_of_cluesIn_self {found : Value} {test : Value → Except Fault (Option Clue)} {xs : List Value}
    (hx : found.items = .ok xs) (hg : ∀ x c, test x = .ok (some c) → c.evidence = x) (h : cluesIn found test = .ok cs) :
    (cs.map Clue.evidence).Sublist xs := by
  have hsub := evidence_of_cluesIn (g := id) hx hg h
  rwa [List.map_id] at hsub

include hr

/-- What supports a threat is a part of the findings, in their order. -/
theorem evidence_sublist (h : clues f kind = .ok cs) : (cs.map Clue.evidence).Sublist (allFindings aggregated) := by
  have hmatches : (foundIn aggregated "static" "pattern_matches").Sublist (allFindings aggregated) := by
    simp [allFindings]
  have hrule : ∀ mark, cluesIn f.patternMatches (ruleClue mark) = .ok cs →
      (cs.map Clue.evidence).Sublist (allFindings aggregated) := by
    intro mark h
    refine List.Sublist.trans (evidence_of_cluesIn_self hr.patternMatches ?_ h) hmatches
    exact fun x c hc => evidence_of_clueAt (clueAt_of_ruleClue hc)
  cases kind with
  | remoteExecution =>
    obtain ⟨found, hfound, h⟩ := Checked.bind_eq_ok.mp h
    obtain ⟨flows, hflows, h⟩ := Checked.bind_eq_ok.mp h
    obtain ⟨calls, hcalls, h⟩ := Checked.bind_eq_ok.mp h
    rw [← Checked.pure_eq_ok.mp h, List.map_append, List.map_append]
    have hfound := evidence_of_cluesIn_self hr.patternMatches
      (fun x c hc => evidence_of_clueAt (clueAt_of_executionMatch hc)) hfound
    have hflows := evidence_of_cluesIn_self hr.taintFlows
      (fun x c hc => evidence_of_clueAt (clueAt_of_executionFlow hc)) hflows
    have hcalls := evidence_of_cluesIn hr.syscalls (fun x c hc => evidence_of_executionCall hc) hcalls
    refine List.Sublist.trans ((hfound.append hflows).append hcalls) ?_
    simp [allFindings]
  | commandInjection =>
    have hsub := evidence_of_cluesIn_self hr.taintFlows
      (fun x c hc => evidence_of_flowTest (List.mem_cons_of_mem _ List.mem_cons_self) hc) h
    refine List.Sublist.trans hsub ?_
    simp [allFindings]
  | webShell => exact hrule _ h
  | backdoor => exact hrule _ h
  | sqlInjection => exact hrule _ h
  | exfiltration =>
    have hsub := evidence_of_cluesIn_self hr.networkActivities (fun x c hc => by
      obtain ⟨c', ⟨⟩, hc'⟩ := exists_activityClue hc
      exact hc') h
    exact hsub.trans ((List.sublist_append_right _ _).trans (List.sublist_append_left _ _))
  | fileRisk => exact hrule _ h
  | crash =>
    have hsub := evidence_of_cluesIn_self hr.fuzzResults (fun x c hc => evidence_of_crashClue hc) h
    exact hsub.trans (List.sublist_append_right _ _)

end Evidence

/-! ## Line numbers -/

section Lines
variable {v l : Value} {c : Clue}

theorem compareNumbers?_of_isPositive (h : isPositive l = .ok true) : l.compareNumbers? (.int 0) = some .gt := by
  unfold isPositive at h
  split at h
  · simpa using h
  · cases h

/-- A finding that points at a positive line has it under its key: a line that is missing counts as zero. -/
theorem field?_of_clueAt {key : String} (h : clueAt v key = .ok c) (hl : c.line = some l) (hp : isPositive l = .ok true) :
    v.field? key = some l := by
  obtain ⟨w, hw, h⟩ := Checked.bind_eq_ok.mp h
  cases Checked.pure_eq_ok.mp h
  cases hl
  cases v with
  | dict fields =>
    cases hfield : Value.fieldOf? key fields with
    | none =>
      rw [Value.get, hfield] at hw
      cases hw
      cases hp
    | some u =>
      rw [Value.get, hfield] at hw
      cases hw
      exact hfield
  | _ => cases hw

def NamesLine (text : List Char) (l : Value) : Prop :=
  ∃ before digits after n, text = before ++ ':' :: (digits ++ ':' :: after) ∧ digits ≠ [] ∧
    (∀ d ∈ digits, Text.isDecimalDigit d = true) ∧ Text.number? digits = some n ∧ l = .int n

theorem exists_of_numberMark? {text digits : List Char} (h : numberMark? text = some digits) :
    digits ≠ [] ∧ (∀ d ∈ digits, Text.isDecimalDigit d = true) ∧
      ∃ before after, text = before ++ ':' :: (digits ++ ':' :: after) := by
  induction text with
  | nil => cases h
  | cons c rest ih =>
    rw [numberMark?] at h
    have hall : ∀ d ∈ rest.takeWhile Text.isDecimalDigit, Text.isDecimalDigit d = true := fun d hd => List.mem_takeWhile_imp hd
    obtain ⟨tail, hrest⟩ := List.takeWhile_prefix Text.isDecimalDigit (l := rest)
    generalize rest.takeWhile Text.isDecimalDigit = ds at h hall hrest
    subst hrest
    split at h
    · next hmark =>
      cases h
      simp only [List.drop_left, Bool.and_eq_true, beq_iff_eq, Bool.not_eq_true', List.isEmpty_eq_false_iff,
        List.isPrefixOf_iff_prefix] at hmark
      obtain ⟨⟨rfl, hne⟩, after, rfl⟩ := hmark
      exact ⟨hne, hall, [], after, rfl⟩
    · obtain ⟨hne, hdigits, before, after, htext⟩ := ih h
      exact ⟨hne, hdigits, c :: before, after, by rw [htext, List.cons_append]⟩

theorem namesLine_of_markedLine {text : List Char} (h : markedLine text = .ok (some l)) : NamesLine text l := by
  unfold markedLine at h
  split at h
  · cases h
  · next digits hmark =>
    obtain ⟨hne, hdigits, before, after, htext⟩ := exists_of_numberMark? hmark
    split at h
    · next n hn =>
      cases h
      exact ⟨before, digits, after, n, htext, hne, hdigits, hn, rfl⟩
    · cases h

/-- An activity that points at a line has it in its log line. -/
theorem namesLine_of_activityClue (h : activityClue v = .ok (some c)) (hl : c.line = some l) :
    ∃ text, v.field? "line" = some (.str text) ∧ NamesLine text.toList l := by
  unfold activityClue at h
  split at h
  · cases h
    cases hl
  · next text htext =>
    obtain ⟨line, hline, h⟩ := Checked.bind_eq_ok.mp h
    cases Checked.pure_eq_ok.mp h
    cases hl
    exact ⟨text, htext, namesLine_of_markedLine hline⟩
  · cases h

end Lines

/-! ## Threats -/

/-- A finding in the evidence points at the line: a match or a flow by a field of its own, and for network threats an activity by
its log line. -/
def PointedAt (aggregated : Value) (t : Threat) (l : Value) : Prop :=
  (∃ v ∈ foundIn aggregated "static" "pattern_matches", v ∈ t.evidence ∧ v.field? "line" = some l) ∨
  (∃ v ∈ foundIn aggregated "static" "taint_flows", v ∈ t.evidence ∧ v.field? "sink_line" = some l) ∨
  t.kind = .exfiltration ∧ ∃ v ∈ foundIn aggregated "dynamic" "network_activities", v ∈ t.evidence ∧
    ∃ text, v.field? "line" = some (.str text) ∧ NamesLine text.toList l

/-- The threat has grounds in the aggregated result. -/
structure Grounded (aggregated : Value) (t : Threat) : Prop where
  supported : t.evidence ≠ []
  evidence : t.evidence.Sublist (allFindings aggregated)
  increasing : t.lines.Pairwise fun a b => a.compareNumbers? b = some .lt
  positive : ∀ l ∈ t.lines, l.compareNumbers? (.int 0) = some .gt
  pointed : ∀ l ∈ t.lines, PointedAt aggregated t l

/-- Network activities are looked at for one kind of threat only. -/
theorem kind_of_networkActivities {kind : ThreatKind} {test : Value → Except Fault (Option Clue)}
    (h : (Findings.networkActivities, test) ∈ clueSources kind) : kind = .exfiltration := by
  by_contra hkind
  -- a list that tells the network activities from the others
  have hothers : ∀ s ∈ clueSources kind, s.1 ⟨.null, .null, .bool true, .null, .null⟩ = .null := by
    cases kind <;> simp_all [clueSources]
  cases hothers _ h

section Kind
variable {aggregated : Value} {f : Findings} {kind : ThreatKind} {t : Threat} (hr : Read aggregated f)
  (h : ofKind f kind = .ok (some t))
include h

theorem increasing_lines : t.lines.Pairwise fun a b => a.compareNumbers? b = some .lt := by
  obtain ⟨ls, hsorted, -⟩ := lines_of_ofKind h
  have hsizes := sizes_sortedLines_pairwise hsorted
  rw [sizes, List.pairwise_filterMap] at hsizes
  refine hsizes.imp_of_mem fun {a b} ha hb hlt => ?_
  obtain ⟨x, hx, -⟩ := isPositive_eq_true.mp (mem_of_mem_sortedLines hsorted ha).2
  obtain ⟨y, hy, -⟩ := isPositive_eq_true.mp (mem_of_mem_sortedLines hsorted hb).2
  rw [Value.compareNumbers?_eq_map_cmp, hx, hy]
  exact congrArg some ((cmp_eq_lt_iff x y).mpr (hlt x hx y hy))

theorem positive_lines {l : Value} (hl : l ∈ t.lines) : isPositive l = .ok true := by
  obtain ⟨ls, hsorted, -⟩ := lines_of_ofKind h
  exact (mem_of_mem_sortedLines hsorted hl).2

include hr

theorem pointed_of_mem_lines {l : Value} (hl : l ∈ t.lines) : PointedAt aggregated t l := by
  have hpos := positive_lines h hl
  obtain ⟨ls, hsorted, hmem⟩ := lines_of_ofKind h
  obtain ⟨c, hsupports, hline⟩ := (hmem l).mp (mem_of_mem_sortedLines hsorted hl).1
  have hevidence := (evidence_of_ofKind h c.evidence).mpr ⟨c, hsupports, rfl⟩
  obtain ⟨⟨list, test⟩, hs, xs, hxs, x, hx, hc⟩ := hsupports
  dsimp only at hxs hc
  rcases mem_clueSources hs with ⟨rfl, ht⟩ | ⟨rfl, ht⟩ | ⟨⟨⟩⟩ | ⟨⟨⟩⟩ | ⟨⟨⟩⟩
  · cases hr.patternMatches.symm.trans hxs
    have hclue := clueAt_of_matchTest ht hc
    rw [evidence_of_clueAt hclue] at hevidence
    exact .inl ⟨x, hx, hevidence, field?_of_clueAt hclue hline hpos⟩
  · cases hr.taintFlows.symm.trans hxs
    have hclue := clueAt_of_flowTest ht hc
    rw [evidence_of_clueAt hclue] at hevidence
    exact .inr (.inl ⟨x, hx, hevidence, field?_of_clueAt hclue hline hpos⟩)
  · cases hr.networkActivities.symm.trans hxs
    obtain ⟨c', ⟨⟩, hx'⟩ := exists_activityClue hc
    rw [hx'] at hevidence
    have hkind := (kind_of_ofKind h).trans (kind_of_networkActivities hs)
    exact .inr (.inr ⟨hkind, x, hx, hevidence, namesLine_of_activityClue hc hline⟩)
  · -- logged calls point at no line
    unfold executionCall at hc
    split at hc
    · obtain ⟨-, ⟨⟩⟩ := Option.ite_none_right_eq_some.mp (Except.ok.inj hc)
      cases hline
    · obtain ⟨-, ⟨⟩⟩ := Option.ite_none_right_eq_some.mp (Except.ok.inj hc)
      cases hline
    · cases hc
  · -- nor do crashes
    obtain ⟨crashed, -, hc⟩ := Checked.bind_eq_ok.mp hc
    obtain ⟨-, ⟨⟩⟩ := Option.ite_none_right_eq_some.mp (Checked.pure_eq_ok.mp hc)
    cases hline

theorem grounded_of_ofKind : Grounded aggregated t := by
  refine ⟨?_, ?_, increasing_lines h, fun l hl => compareNumbers?_of_isPositive (positive_lines h hl),
    fun l hl => pointed_of_mem_lines hr h hl⟩
  · obtain ⟨cs, -, ⟨-, ho⟩ | ⟨hne, lines, -, ho⟩⟩ := ofKind_eq_ok h
    · cases ho
    · cases ho
      simpa using hne
  · obtain ⟨cs, hcs, ⟨-, ho⟩ | ⟨-, lines, -, ho⟩⟩ := ofKind_eq_ok h
    · cases ho
    · cases ho
      exact evidence_sublist hr hcs

end Kind

/-- Where something supports a command injection, the same supports remote execution. -/
theorem supports_remoteExecution {f : Findings} {c : Clue} (h : Supports f .commandInjection c) :
    Supports f .remoteExecution c := by
  obtain ⟨s, hs, xs, hxs, x, hx, hc⟩ := h
  cases List.mem_singleton.mp hs
  have hflow : (Findings.taintFlows, executionFlow) ∈ clueSources .remoteExecution := by simp [clueSources]
  exact ⟨_, hflow, xs, hxs, x, hx, executionFlow_of_injectionFlow hc⟩

/-- Threats are of different types, reported in their order; each rests on findings of the aggregated result and has only lines
that these point at; a type is reported exactly if a finding supports it, and a command injection never without remote
execution. -/
theorem identified_threats_grounded {aggregated : Value} {ts : List Threat} (h : identify aggregated = .ok ts) :
    (ts.map fun t => t.kind.name).Sublist ["RCE", "Command Injection", "WebShell", "Backdoor", "SQL Injection",
      "Network Exfiltration", "File Operation Risk", "Runtime Vulnerability"] ∧
    (ts.map fun t => t.kind.name).Nodup ∧
    (∀ t ∈ ts, Grounded aggregated t) ∧
    ("Command Injection" ∈ ts.map (fun t => t.kind.name) → "RCE" ∈ ts.map fun t => t.kind.name) ∧
    ∃ f, Findings.ofAggregated aggregated = .ok f ∧ ∀ kind, kind ∈ ts.map Threat.kind ↔ ∃ c, Supports f kind c := by
  obtain ⟨f, os, hf, hos, rfl⟩ := identify_eq_ok h
  have hread : Read aggregated f := by
    refine read_of_clues hf fun kind => ?_
    obtain ⟨o, -, ho⟩ := exists_right_of_forall₂ hos (ThreatKind.mem_all kind)
    obtain ⟨cs, hcs, -⟩ := ofKind_eq_ok ho
    exact ⟨cs, hcs⟩
  have hkinds : ∀ kind, kind ∈ (os.filterMap id).map Threat.kind ↔ ∃ c, Supports f kind c := by
    intro kind
    obtain ⟨o, ho, hkind⟩ := exists_right_of_forall₂ hos (ThreatKind.mem_all kind)
    rw [← ofKind_isSome_iff hkind, List.mem_map, Option.isSome_iff_exists]
    constructor
    · rintro ⟨t, ht, rfl⟩
      obtain ⟨-, hof⟩ := (mem_threats_iff hos t).mp ht
      exact ⟨t, Except.ok.inj (hkind.symm.trans hof)⟩
    · rintro ⟨t, rfl⟩
      exact ⟨t, List.mem_filterMap.mpr ⟨some t, ho, rfl⟩, kind_of_ofKind hkind⟩
  have hnames := (kinds_sublist hos).map ThreatKind.name
  rw [List.map_map] at hnames
  refine ⟨hnames, hnames.nodup (by decide), fun t ht => ?_, fun hinjection => ?_, f, hf, hkinds⟩
  · exact grounded_of_ofKind hread ((mem_threats_iff hos t).mp ht).2
  · have hname : ∀ kind : ThreatKind, kind.name = "Command Injection" → kind = .commandInjection := by
      intro kind
      cases kind <;> decide
    obtain ⟨t, ht, hkind⟩ := List.mem_map.mp hinjection
    obtain ⟨c, hc⟩ := (hkinds .commandInjection).mp (hname _ hkind ▸ List.mem_map_of_mem ht)
    obtain ⟨t', ht', hkind'⟩ := List.mem_map.mp ((hkinds .remoteExecution).mpr ⟨c, supports_remoteExecution hc⟩)
    exact List.mem_map.mpr ⟨t', ht', by rw [hkind']; rfl⟩

namespace MixedFindings

def systemMatch : Value := .dict [("rule_id", .str "rce_os_system"), ("line", .int 5)]

def argumentFlow : Value :=
  .dict [("source", .str "sys.argv[1]"), ("sink", .str "os.system"), ("sink_line", .int 2)]

def connection : Value := .dict [("line", .str "connect | stack=a.py:7:main")]

def aggregated : Value :=
  .dict [("static", .dict [("pattern_matches", .list [systemMatch]), ("taint_flows", .list [argumentFlow])]),
    ("dynamic", .dict [("syscalls", .list [.str "os.system"]), ("network_activities", .list [connection])])]

def threats : List Threat :=
  [⟨.remoteExecution, [systemMatch, argumentFlow, .dict [("log_entry", .str "os.system")]], [.int 2, .int 5]⟩,
    ⟨.commandInjection, [argumentFlow], [.int 2]⟩, ⟨.exfiltration, [connection], [.int 7]⟩]

theorem mixed_findings_grounded : identify aggregated = .ok threats ∧
    "Command Injection" ∈ threats.map (fun t => t.kind.name) ∧ "RCE" ∈ threats.map (fun t => t.kind.name) ∧
    ∀ t ∈ threats, Grounded aggregated t := by
  have hidentify : identify aggregated = .ok threats := rfl
  obtain ⟨-, -, hgrounded, hremote, -⟩ := identified_threats_grounded hidentify
  have hinjection : "Command Injection" ∈ threats.map fun t => t.kind.name := by decide
  exact ⟨hidentify, hinjection, hremote hinjection, hgrounded⟩

end MixedFindings
end Threat
end ThreatScan
