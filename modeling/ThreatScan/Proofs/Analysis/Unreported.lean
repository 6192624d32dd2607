import ThreatScan.Proofs.Analysis.Recorded
import ThreatScan.Proofs.Analysis.Skipped
import ThreatScan.Proofs.Analysis.Written
import ThreatScan.Proofs.Threat.Reported
/-!
Dependencies and advisories in reports.

The static results of a file list its dependencies and what is known about them, but the aggregate that reports are made of has
no place for either. Whatever of them a report holds stands there inside the match of a rule, because a rule happened to have
the same record in one of its fields (`Confined`).
-/
namespace ThreatScan

open Value

/-- Evidence is a finding of one of the two analyses, or made of a line of the log. -/
theorem evidence_cases {static dynamic : Value} {a : Aggregate} {ts : List Threat} (hj : Judged static dynamic a ts) {v : Value}
    (hv : Reported ts v) : v ∈ findingsAt static "pattern_matches" ∨ v ∈ findingsAt static "taint_flows" ∨
      v ∈ findingsAt dynamic "network_activities" ∨ v ∈ findingsAt dynamic "syscalls" ∨
      v ∈ findingsAt dynamic "fuzz_results" ∨ ∃ line, v = .dict [("log_entry", .str line)] := by
  obtain ⟨kind, c, ⟨s, hs, xs, hxs, x, hx, hc⟩, rfl⟩ := (reported_iff_supports hj v).mp hv
  obtain ⟨hpm, htf, hsc, hna, hfr, -⟩ := Aggregate.items_of_ofResults hj.aggregated
  rcases Threat.mem_clueSources hs with ⟨hlist, htest⟩ | ⟨hlist, htest⟩ | rfl | rfl | rfl
  · rw [hlist, hpm] at hxs
    cases hxs
    rw [Threat.evidence_of_matchTest htest hc]
    exact .inl hx
  · rw [hlist, htf] at hxs
    cases hxs
    rw [Threat.evidence_of_flowTest htest hc]
    exact .inr (.inl hx)
  · cases hna.symm.trans hxs
    obtain ⟨c', hc', hevidence⟩ := Threat.exists_activityClue hc
    cases hc'
    rw [hevidence]
    exact .inr (.inr (.inl hx))
  · cases hsc.symm.trans hxs
    rw [Threat.evidence_of_executionCall hc]
    cases x with
    | str line => exact .inr (.inr (.inr (.inr (.inr ⟨line, rfl⟩))))
    | _ => exact .inr (.inr (.inr (.inl hx)))
  · cases hfr.symm.trans hxs
    rw [Threat.evidence_of_crashClue hc]
    exact .inr (.inr (.inr (.inr (.inl hx))))

theorem isNumber_of_mem_lines {static dynamic : Value} {a : Aggregate} {ts : List Threat} (hj : Judged static dynamic a ts)
    {t : Threat} (ht : t ∈ ts) : ∀ l ∈ t.lines, l.isNumber = true := by
  obtain ⟨os, hos, rfl⟩ := hj.threats
  obtain ⟨-, hkind⟩ := (Threat.mem_threats_iff hos t).mp ht
  obtain ⟨ls, hls, -⟩ := Threat.lines_of_ofKind hkind
  intro l hl
  obtain ⟨x, hx, -⟩ := Threat.isPositive_eq_true.mp (Threat.mem_of_mem_sortedLines hls hl).2
  exact isNumber_of_size? hx

/-! ## Values whose dependencies stand in certain places -/

/-- Every dependency inside the value is inside one of the others. -/
def Confined (others : List Value) (w : Value) : Prop := ∀ v ∈ w.parts, IsDependency v → ∃ m ∈ others, v ∈ m.parts

namespace Confined
variable {others : List Value}

theorem of_clear {w : Value} (h : Clear dependencyKeys w) : Confined others w :=
  fun _ hv hd => absurd hd (h.not_isDependency hv)

theorem of_mem {m : Value} (h : m ∈ others) : Confined others m := fun _ hv _ => ⟨m, h, hv⟩

theorem list {xs : List Value} (h : ∀ x ∈ xs, Confined others x) : Confined others (.list xs) := by
  intro v hv hd
  rcases mem_parts_list.mp hv with rfl | ⟨x, hx, hv⟩
  · obtain ⟨key, -, hne⟩ := hd
    exact absurd rfl hne
  · exact h x hx v hv hd

theorem dict {fields : List (String × Value)} (h : ∀ f ∈ fields, f.1 ∉ dependencyKeys ∧ Confined others f.2) :
    Confined others (.dict fields) := by
  intro v hv hd
  rcases mem_parts_dict.mp hv with rfl | ⟨f, hf, hv⟩
  · obtain ⟨key, hkey, hne⟩ := hd
    refine absurd (fieldOf?_eq_none.mpr fun f hf heq => (h f hf).1 ?_) hne
    rw [heq]
    exact hkey
  · exact (h f hf).2 v hv hd

end Confined

namespace Analysis

open Act AnalysisResult

section Results
variable {found flows structures errors deps findings syscalls activities fuzz : List Value} {valid : Bool} {p : Prepared}
  {log : String} {more : List (String × Value)} {a : Aggregate} {ts : List Threat}
  (hflows : ∀ x ∈ flows, Clear dependencyKeys x) (hsyscalls : ∀ x ∈ syscalls, Clear dependencyKeys x)
  (hactivities : ∀ x ∈ activities, Clear dependencyKeys x) (hfuzz : ∀ x ∈ fuzz, Clear dependencyKeys x)
include hflows hsyscalls hactivities hfuzz

theorem confined_threat (hj : Judged (staticRecord found flows structures valid errors p deps findings)
    (dynamicRecord syscalls activities fuzz log more) a ts) {t : Threat} (ht : t ∈ ts) : Confined found t.toValue := by
  have hevidence : ∀ v ∈ t.evidence, Confined found v := by
    intro v hv
    rcases evidence_cases hj ⟨t, ht, hv⟩ with hv | hv | hv | hv | hv | ⟨line, rfl⟩
    · exact .of_mem hv
    · exact .of_clear (hflows v hv)
    · exact .of_clear (hactivities v hv)
    · exact .of_clear (hsyscalls v hv)
    · exact .of_clear (hfuzz v hv)
    · exact .of_clear (by simp)
  have hlines : ∀ l ∈ t.lines, Confined found l := fun l hl => .of_clear (clear_of_isNumber (isNumber_of_mem_lines hj ht l hl))
  refine .dict ?_
  simp only [List.forall_mem_cons, mem_dependencyKeys]
  simp [Confined.of_clear, Confined.list hevidence, Confined.list hlines]

omit hflows hsyscalls hactivities hfuzz in
/-- The aggregate has a place for some of the fields of the results, and for no other. -/
theorem ofResults_records (ha : Aggregate.ofResults (staticRecord found flows structures valid errors p deps findings)
    (dynamicRecord syscalls activities fuzz log more) = .ok a) : ∃ tally, a = ⟨.list found, .list flows, .list structures,
      .bool valid, p.symbols, .list syscalls, .list activities, .list fuzz, .str log, tally⟩ := by
  have hfields : Aggregate.ofResults (staticRecord found flows structures valid errors p deps findings)
      (dynamicRecord syscalls activities fuzz log more) = (do
        let tally ← Aggregate.tallyOf (.list found) (.list flows) (.list syscalls) (.list activities) (.list fuzz)
        return ⟨.list found, .list flows, .list structures, .bool valid, p.symbols, .list syscalls, .list activities,
          .list fuzz, .str log, tally⟩) := rfl
  rw [hfields] at ha
  obtain ⟨tally, -, ha⟩ := Checked.bind_eq_ok.mp ha
  exact ⟨tally, (Checked.pure_eq_ok.mp ha).symm⟩

theorem confined_aggregate (hstructures : ∀ x ∈ structures, Clear dependencyKeys x) (hsymbols : Clear dependencyKeys p.symbols)
    (ha : Aggregate.ofResults (staticRecord found flows structures valid errors p deps findings)
      (dynamicRecord syscalls activities fuzz log more) = .ok a) : Confined found a.toValue := by
  obtain ⟨tally, rfl⟩ := ofResults_records ha
  have hlist : ∀ {xs : List Value}, (∀ x ∈ xs, Clear dependencyKeys x) → Confined found (.list xs) :=
    fun h => .of_clear (clear_list.mpr h)
  have hfound : Confined found (.list found) := .list fun _ hm => .of_mem hm
  have hsummary : Confined found (Aggregate.summary tally) := .of_clear (by simp [Aggregate.summary])
  have hstatic : Confined found (.dict [("pattern_matches", .list found), ("taint_flows", .list flows),
      ("cfg_structures", .list structures), ("syntax_valid", .bool valid), ("symbols", p.symbols)]) := by
    refine .dict ?_
    simp [hfound, hlist hflows, hlist hstructures, Confined.of_clear, hsymbols]
  have hdynamic : Confined found (.dict [("syscalls", .list syscalls), ("network_activities", .list activities),
      ("fuzz_results", .list fuzz), ("execution_log", .str log)]) := by
    refine .dict ?_
    simp [hlist hsyscalls, hlist hactivities, hlist hfuzz, Confined.of_clear]
  refine .dict ?_
  simp [hstatic, hdynamic, hsummary]

end Results

def dependenciesIn (static : Value) : List Value := findingsAt static "dependencies" ++ findingsAt static "cve_matches"

section Records
variable {rules : List Value} {static dynamic : Value} (hs : IsStatic rules static)
include hs

theorem isDependency_of_mem : ∀ v ∈ dependenciesIn static, IsDependency v := by
  cases hs with
  | record _ _ _ _ hdeps => exact hdeps

theorem clear_matches (hrules : ∀ rule ∈ rules, Clear dependencyKeys rule) :
    ∀ m ∈ findingsAt static "pattern_matches", Clear dependencyKeys m := by
  cases hs with
  | @record ms _ _ _ _ _ _ _ hms =>
    intro m hm
    obtain ⟨n, hn, rfl⟩ := List.mem_map.mp hm
    obtain ⟨rule, hrule, hread⟩ := hms n hn
    exact Rule.clear_match (hrules rule hrule) hread

theorem confined_results (hd : IsDynamic dynamic) {a : Aggregate} {ts : List Threat} (hj : Judged static dynamic a ts) :
    a.patternMatches = .list (findingsAt static "pattern_matches") ∧
      Confined (findingsAt static "pattern_matches") a.toValue ∧
      ∀ t ∈ ts, Confined (findingsAt static "pattern_matches") t.toValue := by
  cases hs with
  | record _ hflows hstructures hsymbols _ =>
    cases hd with
    | record hsyscalls hactivities hfuzz =>
      obtain ⟨tally, hfields⟩ := ofResults_records hj.aggregated
      refine ⟨by rw [hfields]; rfl, ?_, fun t ht => ?_⟩
      · exact confined_aggregate hflows hsyscalls hactivities hfuzz hstructures hsymbols hj.aggregated
      · exact confined_threat hflows hsyscalls hactivities hfuzz hj ht

end Records

/-! ## Complete analyses -/

theorem Passes.uncons {step : Step} {rest : List Step} {r r' : AnalysisResult} {h h' : Host}
    (hp : Passes (step :: rest) r h r' h') : ∃ r₁ h₁, Gives (step r) h r₁ h₁ ∧ Passes rest r₁ h₁ r' h' := by
  cases hp with
  | cons hg hp => exact ⟨_, _, hg, hp⟩

theorem results_of_passes {s : Settings} {path language : String} {r : AnalysisResult} {h h' : Host}
    (hp : Passes (steps s) (.start path language) h r h') :
    ∃ h₁ h₂ a, Gives (staticResults s path language) h r.static h₁ ∧ Gives (dynamicResults s path language) h₁ r.dynamic h₂ ∧
      r.aggregated = some a ∧ Judged r.static r.dynamic a r.threats ∧ r.mark = none := by
  rw [steps_eq_append] at hp
  obtain ⟨r₄, h₄, hbefore, hafter⟩ := hp.split
  have hkept : ∃ risk reports, r = { r₄ with risk, reports } := by
    refine Passes.invariant (P := fun r' => ∃ risk reports, r' = { r₄ with risk, reports }) ?_ hafter ⟨_, _, rfl⟩
    rintro step hm r₁ h₁ r₂ h₂ ⟨risk, reports, rfl⟩ hg
    obtain ⟨risk', reports', rfl⟩ := adds_after_threats hm hg
    exact ⟨risk', reports', rfl⟩
  obtain ⟨risk, reports, rfl⟩ := hkept
  -- the four steps before give one field each
  obtain ⟨r₁, h₁, hfirst, hbefore⟩ := hbefore.uncons
  obtain ⟨r₂, h₂, hsecond, hbefore⟩ := hbefore.uncons
  obtain ⟨r₃, h₃, hthird, hbefore⟩ := hbefore.uncons
  obtain ⟨_, _, hfourth, hbefore⟩ := hbefore.uncons
  cases hbefore
  obtain ⟨static, k₁, hstatic, hr⟩ := gives_bind.mp hfirst
  obtain ⟨rfl, rfl⟩ := gives_pure.mp hr
  obtain ⟨dynamic, k₂, hdynamic, hr⟩ := gives_bind.mp hsecond
  obtain ⟨rfl, rfl⟩ := gives_pure.mp hr
  obtain ⟨a, ha, rfl⟩ := adds_aggregateStep hthird
  obtain ⟨ts, hts, rfl⟩ := adds_threatStep hfourth
  exact ⟨k₁, k₂, a, hstatic, hdynamic, rfl, ⟨ha, hts⟩, rfl⟩

/-- What the document on a file says of its dependencies: it is there, it holds what stands inside matches of rules, and if no
rule brings a dependency along it holds none of them. -/
structure OmitsDependencies (s : Settings) (now : Instant) (r : AnalysisResult) (d : Disk) : Prop where
  document : ∃ file, ("json", file) ∈ r.reports ∧ d.read file = .ok (.text (Report.json now (reportData r)))
  confined : ∀ v ∈ dependenciesIn r.static,
    v ∈ (reportData r).parts ↔ ∃ m ∈ findingsAt r.static "pattern_matches", v ∈ m.parts
  omitted : (∀ rule ∈ Rule.listOf s.rules, Clear dependencyKeys rule) →
    ∀ v ∈ dependenciesIn r.static, v ∉ (reportData r).parts

theorem mem_parts_of_match {r : AnalysisResult} {a : Aggregate} (ha : r.aggregated = some a) {found : List Value}
    (hfound : a.patternMatches = .list found) {m v : Value} (hm : m ∈ found) (hv : v ∈ m.parts) : v ∈ (reportData r).parts := by
  have haggregated : r.aggregatedValue = a.toValue := by rw [aggregatedValue, ha]; rfl
  refine mem_parts_of_field "aggregated_results" (w := a.toValue) (by simp [haggregated]) ?_
  refine mem_parts_of_field "static" List.mem_cons_self ?_
  refine mem_parts_of_field "pattern_matches" List.mem_cons_self ?_
  rw [hfound]
  exact mem_parts_of_item hm hv

theorem omitsDependencies_of_passes {s : Settings} (hs : s.static = true) {path language : String} {r : AnalysisResult}
    {h h' : Host} (hp : Passes (steps s) (.start path language) h r h') : OmitsDependencies s h.now r h'.disk := by
  obtain ⟨h₁, h₂, a, hstatic, hdynamic, ha, hj, hmark⟩ := results_of_passes hp
  obtain ⟨hleaves, file, hfile⟩ := leaves_of_passes hp
  have hisStatic := yields_staticResults hs path language h r.static h₁ hstatic
  obtain ⟨hfound, haggregate, hthreats⟩ := confined_results hisStatic
    (yields_dynamicResults s path language h₁ r.dynamic h₂ hdynamic) hj
  have hreport : Confined (findingsAt r.static "pattern_matches") (reportData r) := by
    have haggregated : r.aggregatedValue = a.toValue := by rw [aggregatedValue, ha]; rfl
    have hvalues : r.threatValues = r.threats.map Threat.toValue := by rw [threatValues, hmark]
    have hrisk : Clear dependencyKeys r.riskValue := by
      unfold riskValue
      cases r.risk <;> simp [Risk.toValue, Risk.fields, Risk.tallyValue]
    refine .dict ?_
    simp only [haggregated, hvalues, List.forall_mem_cons, mem_dependencyKeys]
    simp [haggregate, Confined.of_clear, hrisk, Confined.list (List.forall_mem_map.mpr hthreats)]
  have hdeps := isDependency_of_mem hisStatic
  refine ⟨⟨file, hfile, ?_⟩, fun v hv => ⟨fun hmem => hreport v hmem (hdeps v hv), ?_⟩, fun hrules v hv hmem => ?_⟩
  · obtain ⟨dir, f, text, -, hname, -, htext, hread⟩ := hleaves.reports _ file hfile
    obtain rfl := Format.name_inj hname
    rw [hread, ← Except.ok.inj htext]
  · rintro ⟨m, hm, hmem⟩
    exact mem_parts_of_match ha hfound hm hmem
  · obtain ⟨m, hm, hmem⟩ := hreport v hmem (hdeps v hv)
    exact (clear_matches hisStatic hrules m hm).not_isDependency hmem (hdeps v hv)

theorem passes_of_complete {config : Option Value} {c : Value} {s : Settings} {h h₁ h' : Host} {path : String}
    {r : AnalysisResult} (hc : Gives (configOr config) h c h₁) (hs : Settings.ofConfig c = .ok s)
    (hg : Gives (analyze config path) h r h') (hend : r.ending = .complete) :
    ∃ language, Passes (steps s) (.start path language) h r h' := by
  cases host_of_configOr hc
  obtain ⟨c', h₂, hc', hg⟩ := gives_bind.mp hg
  cases hc.symm.trans hc'
  have ha := analysed c path h
  rw [hg] at ha
  cases ha with
  | skipped => cases hend
  | broken => cases hend
  | @completed s' language _ _ hb hp =>
    cases hb.settings.symm.trans hs
    exact ⟨language, hp⟩

/-- The document on a file that was analysed to the end has its dependencies and the findings of advisories on them nowhere but
inside matches, where a rule has put them. -/
theorem report_omits_dependencies {config : Option Value} {c : Value} {s : Settings} {h h₁ h' : Host} {path : String}
    {r : AnalysisResult} (hc : Gives (configOr config) h c h₁) (hs : Settings.ofConfig c = .ok s) (hstatic : s.static = true)
    (hg : Gives (analyze config path) h r h') (hend : r.ending = .complete) : OmitsDependencies s h.now r h'.disk := by
  obtain ⟨language, hp⟩ := passes_of_complete hc hs hg hend
  exact omitsDependencies_of_passes hstatic hp

namespace VulnerableRequirement

def host : Host :=
  { refusingHost [("a.py", "f()\n"), ("requirements.txt", "requests\n")] with
    parser := fun _ => ⟨some (.node "Module" none []), none, none⟩ }

def config : Value := .dict [("settings", .dict [("enable_dynamic_analysis", .bool false), ("report_path", .str "r")])]

def common : Settings := ⟨true, false, true, .int 30, .str "r", .dict []⟩

def textsAt (key : String) (records : List Value) : List (Option String) := records.map fun v => (v.field? key).bind text?

def finds : Except Failure AnalysisResult → Bool
  | .ok r => r.ending = .complete ∧ textsAt "name" (findingsAt r.static "dependencies") = [some "requests"] ∧
      textsAt "cve_id" (findingsAt r.static "cve_matches") = [some "CVE-2023-32681"]
  | .error _ => false

theorem finds_host : finds ((analyze (some config) "a.py").outcome host).1 = true := by decide +kernel

theorem exists_result : ∃ r h', Gives (analyze (some config) "a.py") host r h' ∧ r.ending = .complete ∧
    textsAt "name" (findingsAt r.static "dependencies") = [some "requests"] ∧
    textsAt "cve_id" (findingsAt r.static "cve_matches") = [some "CVE-2023-32681"] := by
  have hfinds := finds_host
  rcases gives_or_fails (analyze (some config) "a.py") host with ⟨r, h', hg⟩ | ⟨e, h', hf⟩
  · rw [hg] at hfinds
    exact ⟨r, h', hg, of_decide_eq_true hfinds⟩
  · rw [hf] at hfinds
    cases hfinds

/-- The advisory was found, but neither it nor the package is in the report. -/
theorem advisory_missing_in_report : ∃ r h', Gives (analyze (some config) "a.py") host r h' ∧ r.ending = .complete ∧
    textsAt "name" (findingsAt r.static "dependencies") = [some "requests"] ∧
    textsAt "cve_id" (findingsAt r.static "cve_matches") = [some "CVE-2023-32681"] ∧
    ∀ v ∈ dependenciesIn r.static, v ∉ (reportData r).parts := by
  obtain ⟨r, h', hg, hend, hnames, hids⟩ := exists_result
  obtain ⟨language, hp⟩ := passes_of_complete (gives_pure.mpr ⟨rfl, rfl⟩) (show Settings.ofConfig config = .ok common from rfl)
    hg hend
  have homits := omitsDependencies_of_passes rfl hp
  exact ⟨r, h', hg, hend, hnames, hids, homits.omitted fun _ hrule => absurd hrule List.not_mem_nil⟩

theorem report_on_vulnerable_program : Gives (configOr (some config)) host config host ∧ Settings.ofConfig config = .ok common ∧
    common.static = true ∧ ∃ r h', Gives (analyze (some config) "a.py") host r h' ∧ r.ending = .complete ∧
      OmitsDependencies common host.now r h'.disk := by
  have hc : Gives (configOr (some config)) host config host := gives_pure.mpr ⟨rfl, rfl⟩
  have hs : Settings.ofConfig config = .ok common := rfl
  obtain ⟨r, h', hg, hend, -⟩ := exists_result
  exact ⟨hc, hs, rfl, r, h', hg, hend, report_omits_dependencies hc hs rfl hg hend⟩

end VulnerableRequirement

end Analysis
end ThreatScan
