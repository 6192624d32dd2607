import ThreatScan.Log.NetworkLog
import ThreatScan.Proofs.Checked
/-!
The summary of network activities.

Activities have a summary whatever they are (`exists_ofActivities`). It counts them and those of each kind, and lists their
targets (`Counts`): each once, and in increasing order.
-/
namespace ThreatScan

namespace NetworkSummary

/-! ## Order of the targets -/

theorem insertTarget_str {t : String} {ts : List String} (h : t ∉ ts) :
    insertTarget (.str t) (ts.map .str) = .ok ((Text.insertText t ts).map .str) := by
  induction ts with
  | nil => rfl
  | cons u rest ih =>
    obtain ⟨hne, hrest⟩ := not_or.mp (mt List.mem_cons.mpr h)
    rw [List.map_cons, insertTarget, Text.insertText, ih hrest]
    simp only [before, Checked.ok_bind, decide_eq_true_eq, hne, if_false]
    split <;> rfl

theorem exists_foldlM_insertTarget {ts : List String} (sorted : List String) (hnodup : ts.Nodup)
    (hnew : ∀ t ∈ ts, t ∉ sorted) (hsorted : sorted.Pairwise (· < ·)) : ∃ sorted' : List String,
      (ts.map Value.str).foldlM (fun sorted v => insertTarget v sorted) (sorted.map .str) = .ok (sorted'.map .str) ∧
      sorted'.Pairwise (· < ·) ∧ ∀ t, t ∈ sorted' ↔ t ∈ sorted ∨ t ∈ ts := by
  induction ts generalizing sorted with
  | nil => exact ⟨sorted, rfl, hsorted, by simp⟩
  | cons u rest ih =>
    obtain ⟨hu, hrest⟩ := List.nodup_cons.mp hnodup
    have hnew' : ∀ t ∈ rest, t ∉ Text.insertText u sorted := by
      intro t ht hmem
      rcases Text.mem_insertText.mp hmem with rfl | hmem
      · exact hu ht
      · exact hnew t (List.mem_cons_of_mem u ht) hmem
    obtain ⟨sorted', hfold, hpairwise, hmem⟩ :=
      ih (Text.insertText u sorted) hrest hnew' (Text.pairwise_insertText hsorted)
    refine ⟨sorted', ?_, hpairwise, fun t => ?_⟩
    · rw [List.map_cons, List.foldlM_cons, insertTarget_str (hnew u List.mem_cons_self), Checked.ok_bind, hfold]
    · rw [hmem, Text.mem_insertText, List.mem_cons, or_assoc, or_left_comm]

/-! ## Counting -/

/-- The summary counts the activities, and its targets are theirs. -/
structure Counts (s : NetworkSummary) (as : List NetworkActivity) (targets : List String) : Prop where
  total : s.total = as.length
  connects : s.connects = as.countP (·.kind == "connect")
  binds : s.binds = as.countP (·.kind == "bind")
  targets_eq : s.targets = targets.map .str
  mem_targets : ∀ t, t ∈ targets ↔ ∃ a ∈ as, a.address.target = t

theorem counts_empty : empty.Counts [] [] := ⟨rfl, rfl, rfl, rfl, by simp⟩

section Add
variable {s : NetworkSummary} {as : List NetworkActivity} {ts : List String}

theorem same_str (t u : String) : (Value.str t).same (.str u) = (t == u) := by
  rw [Value.same]

theorem any_same_str (t : String) (ts : List String) : (ts.map Value.str).any (Value.str t).same = decide (t ∈ ts) := by
  induction ts with
  | nil => rfl
  | cons u rest ih =>
    rw [List.map_cons, List.any_cons, ih, same_str, beq_eq_decide]
    simp

theorem Counts.add (h : s.Counts as ts) (hnodup : ts.Nodup) (a : NetworkActivity) :
    ∃ s' ts', s.add a.toValue = .ok s' ∧ s'.Counts (as ++ [a]) ts' ∧ ts'.Nodup := by
  let ts' := if a.address.target ∈ ts then ts else ts ++ [a.address.target]
  have hadd : s.add a.toValue = .ok ⟨s.total + 1, ts'.map .str, if a.kind == "connect" then s.connects + 1 else s.connects,
      if a.kind == "bind" then s.binds + 1 else s.binds⟩ := by
    have htarget : a.toValue.require "target" = .ok (.str a.address.target) := rfl
    have htype : a.toValue.require "type" = .ok (.str a.kind) := rfl
    have hhash : (Value.str a.address.target).hashable = .ok () := rfl
    unfold NetworkSummary.add
    rw [htarget, Checked.ok_bind, hhash, Checked.ok_bind, htype, Checked.ok_bind, same_str, same_str, h.targets_eq,
      any_same_str]
    simp only [ts', decide_eq_true_eq]
    split <;> simp [pure, Except.pure]
  have hmem : ∀ t, t ∈ ts' ↔ t ∈ ts ∨ t = a.address.target := by
    intro t
    simp only [ts']
    split
    · next hin => exact ⟨.inl, fun ht => ht.elim id fun e => e ▸ hin⟩
    · simp
  refine ⟨_, ts', hadd, ⟨?_, ?_, ?_, rfl, fun t => ?_⟩, ?_⟩
  · simp [h.total]
  · simp only [h.connects, List.countP_append, List.countP_singleton]
    split <;> rfl
  · simp only [h.binds, List.countP_append, List.countP_singleton]
    split <;> rfl
  · simp [hmem, h.mem_targets, or_and_right, exists_or, eq_comm]
  · simp only [ts']
    split
    · exact hnodup
    · next hout =>
      refine List.nodup_append.mpr ⟨hnodup, by simp, fun t ht u hu => ?_⟩
      rintro rfl
      exact hout (List.mem_singleton.mp hu ▸ ht)

theorem Counts.foldlM_add (h : s.Counts as ts) (hnodup : ts.Nodup) (bs : List NetworkActivity) :
    ∃ s' ts', (bs.map (·.toValue)).foldlM NetworkSummary.add s = .ok s' ∧ s'.Counts (as ++ bs) ts' ∧ ts'.Nodup := by
  induction bs generalizing s as ts with
  | nil => exact ⟨s, ts, rfl, by simpa using h, hnodup⟩
  | cons a rest ih =>
    obtain ⟨s₁, ts₁, hadd, hcounts, hnodup₁⟩ := h.add hnodup a
    obtain ⟨s', ts', hfold, hcounts', hnodup'⟩ := ih hcounts hnodup₁
    refine ⟨s', ts', ?_, by simpa using hcounts', hnodup'⟩
    rw [List.map_cons, List.foldlM_cons, hadd, Checked.ok_bind, hfold]

end Add

/-- Activities have a summary, and its targets increase. -/
theorem exists_ofActivities (as : List NetworkActivity) : ∃ s targets,
    ofActivities (.list (as.map (·.toValue))) = .ok s ∧ s.Counts as targets ∧ targets.Pairwise (· < ·) := by
  cases as with
  | nil => exact ⟨empty, [], rfl, counts_empty, List.Pairwise.nil⟩
  | cons a rest =>
    obtain ⟨s, ts, hfold, hcounts, hnodup⟩ := counts_empty.foldlM_add List.nodup_nil (a :: rest)
    obtain ⟨sorted, hsort, hpairwise, hmem⟩ :=
      exists_foldlM_insertTarget [] hnodup (fun _ _ => List.not_mem_nil) List.Pairwise.nil
    have htruthy : (Value.list ((a :: rest).map (·.toValue))).truthy = true := rfl
    have hitems : (Value.list ((a :: rest).map (·.toValue))).items = .ok ((a :: rest).map (·.toValue)) := rfl
    refine ⟨{ s with targets := sorted.map .str }, sorted, ?_,
      ⟨hcounts.total, hcounts.connects, hcounts.binds, rfl, fun t => ?_⟩, hpairwise⟩
    · unfold ofActivities sortTargets
      rw [htruthy, hitems, Checked.ok_bind, hfold, Checked.ok_bind, hcounts.targets_eq, ← List.map_nil, hsort]
      rfl
    · rw [hmem, ← List.nil_append (a :: rest), ← hcounts.mem_targets]
      simp

end NetworkSummary
end ThreatScan
