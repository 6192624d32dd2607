import Mathlib.Data.List.Forall2
import Mathlib.Data.List.Induction
import ThreatScan.Proofs.Taint.State
/-!
Taint as reachability.

A variable is tainted where a chain of assignments leads to it: the first assigns an input, each later one copies a variable
that the one before assigned, and the last assigns the variable. `Carries ns i` says that such a chain ends at position `i`
of a list of nodes. Nothing in it speaks of a state.

What is proved: the pass over the nodes keeps exactly the names that such chains reach, each with the line of the last
assignment that tainted it (`tracks_run`). So whether a variable is tainted before a position can be computed
(`isTainted_take_iff`).
-/
namespace ThreatScan

/-- A chain of assignments that carries an input ends at position `i`. -/
inductive Carries (ns : List Tree) : Nat → Prop
  | input {i : Nat} {n : Tree} (hi : ns[i]? = some n) (ha : n.is "Assign" = true)
      (hv : (n.part "value").isInput = true) : Carries ns i
  | copy {i j : Nat} {m n : Tree} {v : String} (hc : Carries ns i) (hij : i < j) (hi : ns[i]? = some m)
      (hj : ns[j]? = some n) (ha : n.is "Assign" = true) (hv : (n.part "value").variableName? = some v)
      (hm : v ∈ m.assignedNames) : Carries ns j

def Taints (ns : List Tree) (i : Nat) (v : String) : Prop :=
  Carries ns i ∧ ∃ n, ns[i]? = some n ∧ v ∈ n.assignedNames

def TaintedBefore (ns : List Tree) (p : Nat) (v : String) : Prop := ∃ i < p, Taints ns i v

/-- The assignment at position `i` is the last one before position `p` that taints the variable. -/
def LastTaint (ns : List Tree) (p : Nat) (v : String) (i : Nat) : Prop :=
  i < p ∧ Taints ns i v ∧ ∀ j < p, Taints ns j v → j ≤ i

/-! ## Chains look back only: nodes that follow do not matter -/

section Append
variable {ns : List Tree} (ms : List Tree) {i p : Nat} {v : String}

theorem Carries.append (h : Carries ns i) : Carries (ns ++ ms) i := by
  induction h with
  | input hi ha hv =>
    obtain ⟨hlt, -⟩ := List.getElem?_eq_some_iff.mp hi
    exact .input (by rw [List.getElem?_append_left hlt]; exact hi) ha hv
  | copy _ hij hi hj ha hv hm ih =>
    obtain ⟨hlt, -⟩ := List.getElem?_eq_some_iff.mp hj
    refine .copy ih hij ?_ ?_ ha hv hm
    · rw [List.getElem?_append_left (by omega)]; exact hi
    · rw [List.getElem?_append_left hlt]; exact hj

theorem Carries.of_append (h : Carries (ns ++ ms) i) (hlt : i < ns.length) : Carries ns i := by
  induction h with
  | input hi ha hv => exact .input (by rwa [List.getElem?_append_left hlt] at hi) ha hv
  | copy _ hij hi hj ha hv hm ih =>
    refine .copy (ih (by omega)) hij ?_ ?_ ha hv hm
    · rwa [List.getElem?_append_left (by omega)] at hi
    · rwa [List.getElem?_append_left hlt] at hj

theorem taints_append (hlt : i < ns.length) : Taints (ns ++ ms) i v ↔ Taints ns i v := by
  unfold Taints
  rw [List.getElem?_append_left hlt]
  exact and_congr_left' ⟨fun h => h.of_append ms hlt, fun h => h.append ms⟩

theorem taintedBefore_append (hp : p ≤ ns.length) : TaintedBefore (ns ++ ms) p v ↔ TaintedBefore ns p v := by
  refine exists_congr fun i => and_congr_right fun hi => ?_
  exact taints_append ms (by omega)

theorem LastTaint.append (hp : p ≤ ns.length) (h : LastTaint ns p v i) : LastTaint (ns ++ ms) p v i := by
  obtain ⟨hi, ht, hlast⟩ := h
  refine ⟨hi, (taints_append ms (by omega)).mpr ht, ?_⟩
  intro j hj hjt
  exact hlast j hj ((taints_append ms (by omega)).mp hjt)

end Append

/-! ## One more node -/

section Concat
variable {ns : List Tree} {n : Tree} {v : String}

/-- A chain ends at the last node if that assigns an input, or a variable tainted before. -/
theorem carries_concat : Carries (ns ++ [n]) ns.length ↔ n.is "Assign" = true ∧
    ((n.part "value").isInput = true ∨ ∃ v ∈ (n.part "value").variableName?, TaintedBefore ns ns.length v) := by
  have hn : (ns ++ [n])[ns.length]? = some n := by simp
  constructor
  · intro h
    cases h with
    | input hi ha hv =>
      rw [hn] at hi
      cases hi
      exact ⟨ha, .inl hv⟩
    | copy hc hij hi hj ha hv hm =>
      rw [hn] at hj
      cases hj
      have ht : Taints ns _ _ := (taints_append [n] hij).mp ⟨hc, _, hi, hm⟩
      exact ⟨ha, .inr ⟨_, hv, _, hij, ht⟩⟩
  · rintro ⟨ha, hv | ⟨v, hv, i, hi, ht⟩⟩
    · exact .input hn ha hv
    · obtain ⟨hc, m, hm, hmem⟩ := (taints_append [n] hi).mpr ht
      exact .copy hc hi hm hn ha hv hmem

theorem taints_concat : Taints (ns ++ [n]) ns.length v ↔ Carries (ns ++ [n]) ns.length ∧ v ∈ n.assignedNames := by
  simp [Taints]

theorem taintedBefore_concat : TaintedBefore (ns ++ [n]) (ns.length + 1) v ↔
    TaintedBefore ns ns.length v ∨ Taints (ns ++ [n]) ns.length v := by
  rw [← taintedBefore_append [n] (Nat.le_refl _)]
  unfold TaintedBefore
  constructor
  · rintro ⟨i, hi, ht⟩
    rcases Nat.lt_succ_iff_lt_or_eq.mp hi with hlt | rfl
    · exact .inl ⟨i, hlt, ht⟩
    · exact .inr ht
  · rintro (⟨i, hi, ht⟩ | ht)
    · exact ⟨i, by omega, ht⟩
    · exact ⟨ns.length, by omega, ht⟩

theorem lastTaint_concat_self (h : Taints (ns ++ [n]) ns.length v) :
    LastTaint (ns ++ [n]) (ns.length + 1) v ns.length :=
  ⟨by omega, h, fun j hj _ => by omega⟩

theorem LastTaint.concat {i : Nat} (h : LastTaint ns ns.length v i) (hn : ¬ Taints (ns ++ [n]) ns.length v) :
    LastTaint (ns ++ [n]) (ns.length + 1) v i := by
  obtain ⟨hi, ht, hlast⟩ := h.append [n] (Nat.le_refl _)
  refine ⟨by omega, ht, ?_⟩
  intro j hj hjt
  rcases Nat.lt_succ_iff_lt_or_eq.mp hj with hlt | rfl
  · exact hlast j hlt hjt
  · exact absurd hjt hn

end Concat

/-! ## The state keeps what chains reach -/

/-- The state holds the names that are tainted after the nodes, each with the line of the assignment that tainted it last. -/
structure Tracks (ns : List Tree) (s : TaintState) : Prop where
  tainted : ∀ v, s.isTainted v = true ↔ TaintedBefore ns ns.length v
  line : ∀ v, TaintedBefore ns ns.length v →
    ∃ i n, LastTaint ns ns.length v i ∧ ns[i]? = some n ∧ s.assignedLine? v = some n.line

theorem tracks_empty : Tracks [] .empty where
  tainted v := by simp [TaintState.isTainted, TaintState.empty, TaintedBefore]
  line v h := by
    obtain ⟨i, hi, -⟩ := h
    simp at hi

/-- An assignment carries input onwards exactly if the state finds its value tainted. -/
theorem Tracks.carries_concat_iff {ns : List Tree} {s : TaintState} (h : Tracks ns s) (n : Tree) :
    Carries (ns ++ [n]) ns.length ↔ n.is "Assign" = true ∧ s.valueTainted (n.part "value") = true := by
  rw [carries_concat, TaintState.valueTainted_iff]
  simp only [h.tainted]

theorem not_taints_concat_of_other {ns : List Tree} {n : Tree} (hn : n.is "Assign" = false) (v : String) :
    ¬ Taints (ns ++ [n]) ns.length v := by
  rw [taints_concat, carries_concat, hn]
  simp

theorem Tracks.assign {ns : List Tree} {s : TaintState} (h : Tracks ns s) {n : Tree} (hn : n.is "Assign" = true) :
    Tracks (ns ++ [n]) (s.assign n) := by
  have hlen : (ns ++ [n]).length = ns.length + 1 := by simp
  have hiff : ∀ v, Taints (ns ++ [n]) ns.length v ↔
      s.valueTainted (n.part "value") = true ∧ v ∈ n.assignedNames := by
    intro v
    rw [taints_concat, h.carries_concat_iff n]
    simp [hn]
  constructor
  · intro v
    rw [hlen, taintedBefore_concat, hiff, TaintState.isTainted_assign, h.tainted]
  · intro v hv
    rw [hlen, taintedBefore_concat] at hv
    rw [hlen, TaintState.assignedLine?_assign]
    by_cases ht : Taints (ns ++ [n]) ns.length v
    · rw [if_pos ((hiff v).mp ht)]
      exact ⟨ns.length, n, lastTaint_concat_self ht, by simp, rfl⟩
    · rw [if_neg (fun hc => ht ((hiff v).mpr hc))]
      obtain ⟨i, m, hl, hm, hline⟩ := h.line v (hv.resolve_right ht)
      refine ⟨i, m, hl.concat ht, ?_, hline⟩
      rw [List.getElem?_append_left hl.1]
      exact hm

/-- A node that is no assignment changes neither the chains nor what the state says of names. -/
theorem Tracks.other {ns : List Tree} {s s' : TaintState} (h : Tracks ns s) {n : Tree} (hn : n.is "Assign" = false)
    (ht : ∀ v, s'.isTainted v = s.isTainted v) (hl : ∀ v, s'.assignedLine? v = s.assignedLine? v) :
    Tracks (ns ++ [n]) s' := by
  have hlen : (ns ++ [n]).length = ns.length + 1 := by simp
  have hno : ∀ v, ¬ Taints (ns ++ [n]) ns.length v := not_taints_concat_of_other hn
  constructor
  · intro v
    rw [hlen, taintedBefore_concat, ht, h.tainted]
    simp [hno v]
  · intro v hv
    rw [hlen, taintedBefore_concat] at hv
    obtain ⟨i, m, hlast, hm, hline⟩ := h.line v (hv.resolve_right (hno v))
    rw [hlen, hl]
    refine ⟨i, m, hlast.concat (hno v), ?_, hline⟩
    rw [List.getElem?_append_left hlast.1]
    exact hm

theorem Tracks.step {ns : List Tree} {s : TaintState} (h : Tracks ns s) (n : Tree) : Tracks (ns ++ [n]) (s.step n) := by
  unfold TaintState.step
  cases ha : n.is "Assign" with
  | true => exact h.assign ha
  | false =>
    cases n.is "Call" with
    | true => exact h.other ha (s.isTainted_call n) (s.assignedLine?_call n)
    | false => exact h.other ha (fun _ => rfl) (fun _ => rfl)

theorem tracks_run (ns : List Tree) : Tracks ns (ns.foldl TaintState.step .empty) := by
  -- chains look back, so the list has to grow at its end
  induction ns using List.reverseRecOn with
  | nil => exact tracks_empty
  | append_singleton ns n ih =>
    rw [List.foldl_append]
    exact ih.step n

/-- Whether a variable is tainted before a position can be found out by the pass over the nodes before it. -/
theorem isTainted_take_iff (ns : List Tree) (p : Nat) (v : String) :
    ((ns.take p).foldl TaintState.step .empty).isTainted v = true ↔ TaintedBefore ns p v := by
  rw [(tracks_run (ns.take p)).tainted, ← taintedBefore_append (ns.drop p) (Nat.le_refl _), List.take_append_drop]
  unfold TaintedBefore
  constructor
  · rintro ⟨i, hi, ht⟩
    exact ⟨i, by simp at hi; omega, ht⟩
  · rintro ⟨i, hi, ht⟩
    obtain ⟨n, hn, -⟩ := ht.2
    obtain ⟨hlt, -⟩ := List.getElem?_eq_some_iff.mp hn
    exact ⟨i, by simp; omega, ht⟩

instance (ns : List Tree) (p : Nat) (v : String) : Decidable (TaintedBefore ns p v) :=
  decidable_of_iff _ (isTainted_take_iff ns p v)

end ThreatScan
