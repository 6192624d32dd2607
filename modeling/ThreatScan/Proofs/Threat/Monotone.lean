import ThreatScan.Proofs.Threat.Judged
/-!
More findings never look safer.

Results are compared by their five lists of findings. If each list of one analysis is contained in that of another, each
finding as often and in whatever order, then every threat of the first is one of the second, with at least its lines; no
count of the summary is greater; and neither the score nor the level of the risk is above that of the second
(`more_findings_never_safer`). Two analyses with the same findings in different orders therefore agree in all of this.
-/
namespace ThreatScan

/-- Every list of findings of the first results is contained in that of the second, in whatever order. -/
structure Fewer (static dynamic static' dynamic' : Value) : Prop where
  patternMatches : (findingsAt static "pattern_matches").Subperm (findingsAt static' "pattern_matches")
  taintFlows : (findingsAt static "taint_flows").Subperm (findingsAt static' "taint_flows")
  syscalls : (findingsAt dynamic "syscalls").Subperm (findingsAt dynamic' "syscalls")
  networkActivities : (findingsAt dynamic "network_activities").Subperm (findingsAt dynamic' "network_activities")
  fuzzResults : (findingsAt dynamic "fuzz_results").Subperm (findingsAt dynamic' "fuzz_results")

namespace Threat

/-! ## Threats of contained findings -/

def findingLists : List (Findings → Value) :=
  [Findings.patternMatches, Findings.taintFlows, Findings.networkActivities, Findings.syscalls, Findings.fuzzResults]

/-- Every finding of the first is one of the second. -/
def Within (f g : Findings) : Prop :=
  ∀ list ∈ findingLists, ∀ xs, (list f).items = .ok xs → ∃ ys, (list g).items = .ok ys ∧ xs ⊆ ys

theorem mem_findingLists {kind : ThreatKind} {s : (Findings → Value) × (Value → Except Fault (Option Clue))}
    (h : s ∈ clueSources kind) : s.1 ∈ findingLists := by
  cases kind <;> simp only [clueSources, List.mem_cons, List.not_mem_nil, or_false] at h
  case remoteExecution => rcases h with rfl | rfl | rfl <;> simp [findingLists]
  all_goals
    subst h
    simp [findingLists]

/-- No test asks for the absence of a finding. -/
theorem Supports.mono {f g : Findings} (h : Within f g) {kind : ThreatKind} {c : Clue} (hc : Supports f kind c) :
    Supports g kind c := by
  obtain ⟨s, hs, xs, hxs, x, hx, hclue⟩ := hc
  obtain ⟨ys, hys, hsub⟩ := h s.1 (mem_findingLists hs) xs hxs
  exact ⟨s, hs, ys, hys, x, hsub hx, hclue⟩

/-- The threat of a kind stays, and keeps its lines. -/
theorem exists_ofKind_of_within {f g : Findings} (h : Within f g) {kind : ThreatKind} {t : Threat} {o : Option Threat}
    (hf : ofKind f kind = .ok (some t)) (hg : ofKind g kind = .ok o) :
    ∃ u, o = some u ∧ ∀ l ∈ t.lines, ∃ k ∈ u.lines, l.same k = true := by
  have hsome : o.isSome = true := by
    obtain ⟨c, hc⟩ := (ofKind_isSome_iff hf).mp rfl
    exact (ofKind_isSome_iff hg).mpr ⟨c, hc.mono h⟩
  obtain ⟨u, rfl⟩ := Option.isSome_iff_exists.mp hsome
  refine ⟨u, rfl, fun l hl => ?_⟩
  obtain ⟨ls, hls, hmem⟩ := lines_of_ofKind hf
  obtain ⟨ks, hks, hmem'⟩ := lines_of_ofKind hg
  obtain ⟨hl', hpos⟩ := mem_of_mem_sortedLines hls hl
  obtain ⟨c, hc, hline⟩ := (hmem l).mp hl'
  exact exists_same_of_mem hks ((hmem' l).mpr ⟨c, hc.mono h, hline⟩) hpos

/-- The same findings give the same threat of a kind, or none. -/
theorem ofKind_rel_of_within {f g : Findings} (h : Within f g) (h' : Within g f) {kind : ThreatKind}
    {o o' : Option Threat} (hf : ofKind f kind = .ok o) (hg : ofKind g kind = .ok o') :
    Option.Rel (fun t u => t.kind = u.kind ∧ Value.sameItems t.lines u.lines = true) o o' := by
  cases o with
  | some t =>
    obtain ⟨u, rfl, -⟩ := exists_ofKind_of_within h hf hg
    obtain ⟨ls, hls, hmem⟩ := lines_of_ofKind hf
    obtain ⟨ks, hks, hmem'⟩ := lines_of_ofKind hg
    refine .some ⟨by rw [kind_of_ofKind hf, kind_of_ofKind hg], sameItems_sortedLines hls hks fun l => ?_⟩
    rw [hmem, hmem']
    exact exists_congr fun c => and_congr_left' ⟨fun hc => hc.mono h, fun hc => hc.mono h'⟩
  | none =>
    cases o' with
    | none => exact .none
    | some u =>
      obtain ⟨t, ht, -⟩ := exists_ofKind_of_within h' hg hf
      simp at ht

section All
variable {f g : Findings} {kinds : List ThreatKind} {os os' : List (Option Threat)}
  (hf : List.Forall₂ (fun kind o => ofKind f kind = .ok o) kinds os)
  (hg : List.Forall₂ (fun kind o => ofKind g kind = .ok o) kinds os')
include hf hg

theorem exists_threat_of_within (h : Within f g) {t : Threat} (ht : t ∈ os.filterMap id) :
    ∃ u ∈ os'.filterMap id, u.kind = t.kind ∧ ∀ l ∈ t.lines, ∃ k ∈ u.lines, l.same k = true := by
  obtain ⟨hk, hft⟩ := (mem_threats_iff hf t).mp ht
  obtain ⟨o, ho⟩ := Checked.exists_of_mapM_eq_ok (Checked.mapM_eq_ok.mpr hg) hk
  obtain ⟨u, rfl, hlines⟩ := exists_ofKind_of_within h hft ho
  have hu := kind_of_ofKind ho
  refine ⟨u, (mem_threats_iff hg u).mpr ?_, hu, hlines⟩
  rw [hu]
  exact ⟨hk, ho⟩

theorem forall₂_threats_of_within (h : Within f g) (h' : Within g f) :
    List.Forall₂ (fun t u => t.kind = u.kind ∧ Value.sameItems t.lines u.lines = true) (os.filterMap id)
      (os'.filterMap id) := by
  induction hf generalizing os' with
  | nil =>
    cases hg
    exact .nil
  | @cons kind o kinds os ho hos ih =>
    cases hg with
    | @cons _ o' _ os' ho' hos' =>
      have hrest := ih hos'
      cases ofKind_rel_of_within h h' ho ho' with
      | some hr => exact .cons hr hrest
      | none => exact hrest

end All

/-- Fewer kinds of threat, less risk. -/
theorem assess_mono {ts us : List Threat} (h : (ts.map Threat.kind).Subperm (us.map Threat.kind)) :
    ∃ r r', Risk.assess (.list (ts.map toValue)) = .ok r ∧ Risk.assess (.list (us.map toValue)) = .ok r' ∧
      r.tally.le r'.tally ∧ r.score = Risk.scoreOf r.tally ∧ r'.score = Risk.scoreOf r'.tally ∧
      r.level = Risk.levelOf r.score ∧ r'.level = Risk.levelOf r'.score := by
  obtain ⟨t, ht, hcount⟩ := assess_toValue ts
  obtain ⟨t', ht', hcount'⟩ := assess_toValue us
  refine ⟨_, _, ht, ht', Tally.le_of_count fun s => ?_, rfl, rfl, rfl, rfl⟩
  show t.count s ≤ t'.count s
  rw [hcount, hcount']
  exact h.countP_le _

end Threat

/-! ## Whole analyses -/

theorem exists_items_of_subperm {v w : Value} {as bs xs : List Value} (hv : v.items = .ok as) (hw : w.items = .ok bs)
    (h : as.Subperm bs) (hxs : v.items = .ok xs) : ∃ ys, w.items = .ok ys ∧ xs ⊆ ys := by
  rw [hv] at hxs
  cases hxs
  exact ⟨bs, hw, h.subset⟩

section Analyses
variable {static dynamic static' dynamic' : Value} {a b : Aggregate} {ts us : List Threat}

theorem Judged.within (ha : Judged static dynamic a ts) (hb : Judged static' dynamic' b us)
    (h : Fewer static dynamic static' dynamic') : Threat.Within a.findings b.findings := by
  obtain ⟨pm, tf, sc, na, fr, -⟩ := Aggregate.items_of_ofResults ha.aggregated
  obtain ⟨pm', tf', sc', na', fr', -⟩ := Aggregate.items_of_ofResults hb.aggregated
  intro list hlist xs hxs
  simp only [Threat.findingLists, List.mem_cons, List.not_mem_nil, or_false] at hlist
  rcases hlist with rfl | rfl | rfl | rfl | rfl
  · exact exists_items_of_subperm pm pm' h.patternMatches hxs
  · exact exists_items_of_subperm tf tf' h.taintFlows hxs
  · exact exists_items_of_subperm na na' h.networkActivities hxs
  · exact exists_items_of_subperm sc sc' h.syscalls hxs
  · exact exists_items_of_subperm fr fr' h.fuzzResults hxs

/-- No count of the summary falls when findings are added. -/
theorem Judged.tally_le (ha : Judged static dynamic a ts) (hb : Judged static' dynamic' b us)
    (h : Fewer static dynamic static' dynamic') : a.tally.le b.tally := by
  obtain ⟨-, -, -, -, -, hcount⟩ := Aggregate.items_of_ofResults ha.aggregated
  obtain ⟨-, -, -, -, -, hcount'⟩ := Aggregate.items_of_ofResults hb.aggregated
  refine Tally.le_of_count fun s => ?_
  have hpm := h.patternMatches.countP_le (Tally.states s)
  have htf := h.taintFlows.length_le
  have hsc := h.syscalls.countP_le fun e => Aggregate.syscallSeverity e == some s
  have hna := h.networkActivities.length_le
  have hfr := h.fuzzResults.countP_le fun z => decide (s = .high) && Aggregate.crashed z
  rw [hcount, hcount']
  split <;> split <;> omega

theorem Judged.kinds_subperm (ha : Judged static dynamic a ts) (hb : Judged static' dynamic' b us)
    (h : Fewer static dynamic static' dynamic') : (ts.map Threat.kind).Subperm (us.map Threat.kind) := by
  obtain ⟨os, hos, rfl⟩ := ha.threats
  obtain ⟨os', hos', rfl⟩ := hb.threats
  -- each kind is reported once, so it is enough that every kind of the first is one of the second
  have hnodup : ((os.filterMap id).map Threat.kind).Nodup := (Threat.kinds_sublist hos).nodup (by decide)
  refine List.subperm_of_subset hnodup fun kind hkind => ?_
  obtain ⟨t, ht, rfl⟩ := List.mem_map.mp hkind
  obtain ⟨u, hu, hk, -⟩ := Threat.exists_threat_of_within hos hos' (ha.within hb h) ht
  exact List.mem_map.mpr ⟨u, hu, hk⟩

/-- Whatever is found for some findings is found for more of them: the threats with their lines, the counts of the summary,
the score and the level. If the findings are the same in another order, all of this is the same. -/
theorem more_findings_never_safer (ha : Judged static dynamic a ts) (hb : Judged static' dynamic' b us)
    (h : Fewer static dynamic static' dynamic') :
    (∀ t ∈ ts, ∃ u ∈ us, u.kind = t.kind ∧ ∀ l ∈ t.lines, ∃ k ∈ u.lines, l.same k = true) ∧
    a.tally.le b.tally ∧
    (∃ r r', Risk.assess (.list (ts.map Threat.toValue)) = .ok r ∧ Risk.assess (.list (us.map Threat.toValue)) = .ok r' ∧
      r.score ≤ r'.score ∧ r.level.rank ≤ r'.level.rank ∧
      (Fewer static' dynamic' static dynamic → r.score = r'.score ∧ r.level = r'.level)) ∧
    (Fewer static' dynamic' static dynamic → a.tally = b.tally ∧
      List.Forall₂ (fun t u => t.kind = u.kind ∧ Value.sameItems t.lines u.lines = true) ts us) := by
  obtain ⟨os, hos, rfl⟩ := ha.threats
  obtain ⟨os', hos', rfl⟩ := hb.threats
  refine ⟨fun t ht => ?_, ha.tally_le hb h, ?_, fun h' => ⟨?_, ?_⟩⟩
  · exact Threat.exists_threat_of_within hos hos' (ha.within hb h) ht
  · obtain ⟨r, r', hr, hr', hle, hs, hs', hl, hl'⟩ := Threat.assess_mono (ha.kinds_subperm hb h)
    have hscore : r.score ≤ r'.score := by rw [hs, hs']; exact Risk.scoreOf_mono hle
    refine ⟨r, r', hr, hr', hscore, by rw [hl, hl']; exact Risk.levelOf_mono hscore, fun h' => ?_⟩
    obtain ⟨q', q, hq', hq, hle', hs₂, hs₂', -, -⟩ := Threat.assess_mono (hb.kinds_subperm ha h')
    rw [hr] at hq
    rw [hr'] at hq'
    cases hq
    cases hq'
    have heq : r.score = r'.score := by
      have hge : r'.score ≤ r.score := by rw [hs, hs']; exact Risk.scoreOf_mono hle'
      omega
    exact ⟨heq, by rw [hl, hl', heq]⟩
  · exact Tally.eq_of_le_le (ha.tally_le hb h) (hb.tally_le ha h')
  · exact Threat.forall₂_threats_of_within hos hos' (ha.within hb h) (hb.within ha h')

end Analyses

/-- Results of a small analysis: one match of a rule, no run. -/
def oneFinding : Value :=
  .dict [("pattern_matches", .list [.dict [("rule_id", .str "webshell_eval"), ("line", .int 3),
    ("severity", .str "critical")]])]

/-- The same match after another one. -/
def twoFindings : Value :=
  .dict [("pattern_matches", .list [.dict [("rule_id", .str "file_open"), ("line", .int 7)],
    .dict [("rule_id", .str "webshell_eval"), ("line", .int 3), ("severity", .str "critical")]])]

def oneCrash : Value := .dict [("fuzz_results", .list [.dict [("crashed", .bool true)]])]

theorem fewer_oneFinding : Fewer oneFinding .null twoFindings oneCrash where
  patternMatches := (List.sublist_cons_self _ _).subperm
  taintFlows := List.nil_subperm
  syscalls := List.nil_subperm
  networkActivities := List.nil_subperm
  fuzzResults := List.nil_subperm

theorem oneFinding_not_safer : ∃ a b ts us, Judged oneFinding .null a ts ∧ Judged twoFindings oneCrash b us ∧
    Fewer oneFinding .null twoFindings oneCrash ∧ ts.map Threat.kind = [.webShell] ∧
    (∀ t ∈ ts, ∃ u ∈ us, u.kind = t.kind ∧ ∀ l ∈ t.lines, ∃ k ∈ u.lines, l.same k = true) ∧ a.tally.le b.tally := by
  refine ⟨_, _, _, _, ⟨rfl, rfl⟩, ⟨rfl, rfl⟩, fewer_oneFinding, rfl, ?_⟩
  have h := more_findings_never_safer ⟨rfl, rfl⟩ ⟨rfl, rfl⟩ fewer_oneFinding
  exact ⟨h.1, h.2.1⟩

end ThreatScan
