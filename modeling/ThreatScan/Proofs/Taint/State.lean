import ThreatScan.Taint.Flow
/-!
What one node does to the taint state.

An assignment with a tainted value taints the variables it assigns and notes its line for each of them; it adds no flow.
A dangerous call adds the flows of its arguments; it taints nothing. Every other node leaves the state as it is, so a tree
is judged by its assignments and calls alone (`taint_eq_foldl_events`).
-/
namespace ThreatScan

namespace Tree

def assignedNames (n : Tree) : List String := (n.partItems "targets").filterMap variableName?

/-- The assignments and calls of a tree, in the order in which they are met. Positions count in this list. -/
def events (t : Tree) : List Tree := t.preorder.filter fun n => n.is "Assign" || n.is "Call"

end Tree

namespace TaintState

theorem lookup_cons_eq_ite (k other : String) (l : Nat) (rest : List (String × Nat)) :
    ((k, l) :: rest).lookup other = if other = k then some l else rest.lookup other := by
  rw [List.lookup_cons]
  by_cases h : other = k
  · simp [h]
  · rw [beq_false_of_ne h, if_neg h]

theorem lookup_noteLine (name other : String) (line : Nat) (lines : List (String × Nat)) :
    (noteLine name line lines).lookup other = if other = name then some line else lines.lookup other := by
  induction lines with
  | nil => rw [noteLine, lookup_cons_eq_ite]
  | cons e rest ih =>
    obtain ⟨k, l⟩ := e
    rw [noteLine, lookup_cons_eq_ite]
    by_cases hk : k = name
    · rw [if_pos hk, lookup_cons_eq_ite, ← hk]
      by_cases ho : other = k <;> simp [ho]
    · rw [if_neg hk, lookup_cons_eq_ite, ih]
      by_cases ho : other = k
      · simp [ho, hk]
      · simp [ho]

/-! ## One variable tainted -/

section Taint
variable (line : Nat) (source : String) (s : TaintState) (name v : String)

@[simp] theorem flows_taint : (taint line source s name).flows = s.flows := rfl

theorem isTainted_taint : (taint line source s name).isTainted v = (s.isTainted v || v == name) := by
  unfold isTainted taint
  by_cases hm : name ∈ s.tainted
  · by_cases hv : v = name
    · subst hv; simp [hm]
    · simp [hm, hv]
  · simp [hm, Bool.beq_eq_decide_eq]

theorem assignedLine?_taint :
    (taint line source s name).assignedLine? v = if v = name then some line else s.assignedLine? v :=
  lookup_noteLine name v line s.assigned

end Taint

/-! ## Several variables tainted by one value -/

section Targets
variable (line : Nat) (source : String) (s : TaintState) (names : List String) (v : String)

theorem flows_foldl_taint : (names.foldl (taint line source) s).flows = s.flows := by
  induction names generalizing s with
  | nil => rfl
  | cons n rest ih => rw [List.foldl_cons, ih, flows_taint]

theorem isTainted_foldl_taint :
    (names.foldl (taint line source) s).isTainted v = true ↔ s.isTainted v = true ∨ v ∈ names := by
  induction names generalizing s with
  | nil => simp
  | cons n rest ih =>
    rw [List.foldl_cons, ih, isTainted_taint]
    simp [or_assoc]

theorem assignedLine?_foldl_taint :
    (names.foldl (taint line source) s).assignedLine? v = if v ∈ names then some line else s.assignedLine? v := by
  induction names generalizing s with
  | nil => simp
  | cons n rest ih =>
    rw [List.foldl_cons, ih, assignedLine?_taint]
    by_cases hr : v ∈ rest
    · simp [hr]
    · by_cases hn : v = n <;> simp [hr, hn]

end Targets

/-! ## Assignments and calls -/

section Node
variable (s : TaintState) (n : Tree) (v : String)

theorem assign_of_tainted (h : s.valueTainted (n.part "value") = true) :
    s.assign n = n.assignedNames.foldl (taint n.line (n.part "value").outline) s := by
  simp only [assign, h, if_true, Tree.assignedNames]

theorem assign_of_clean (h : s.valueTainted (n.part "value") = false) : s.assign n = s := by
  simp [assign, h]

@[simp] theorem flows_assign : (s.assign n).flows = s.flows := by
  cases h : s.valueTainted (n.part "value") with
  | false => rw [assign_of_clean s n h]
  | true => rw [assign_of_tainted s n h, flows_foldl_taint]

theorem isTainted_assign : (s.assign n).isTainted v = true ↔
    s.isTainted v = true ∨ (s.valueTainted (n.part "value") = true ∧ v ∈ n.assignedNames) := by
  cases h : s.valueTainted (n.part "value") with
  | false => simp [assign_of_clean s n h]
  | true => simp [assign_of_tainted s n h, isTainted_foldl_taint]

theorem assignedLine?_assign : (s.assign n).assignedLine? v =
    if s.valueTainted (n.part "value") = true ∧ v ∈ n.assignedNames then some n.line else s.assignedLine? v := by
  cases h : s.valueTainted (n.part "value") with
  | false => simp [assign_of_clean s n h]
  | true => simp [assign_of_tainted s n h, assignedLine?_foldl_taint]

@[simp] theorem isTainted_call : (s.call n).isTainted v = s.isTainted v := by
  unfold call isTainted
  cases n.dangerousCall? <;> rfl

@[simp] theorem assignedLine?_call : (s.call n).assignedLine? v = s.assignedLine? v := by
  unfold call assignedLine?
  cases n.dangerousCall? <;> rfl

theorem flows_call : (s.call n).flows =
    s.flows ++ (n.dangerousCall?.map fun sink => (n.partItems "args").filterMap (s.flow? sink n.line)).getD [] := by
  unfold call
  cases n.dangerousCall? <;> simp

theorem valueTainted_iff (value : Tree) : s.valueTainted value = true ↔
    value.isInput = true ∨ ∃ v ∈ value.variableName?, s.isTainted v = true := by
  simp [valueTainted, Option.any_eq_true]

end Node

/-! ## Nodes of other kinds -/

theorem step_of_other (s : TaintState) (n : Tree) (h : (n.is "Assign" || n.is "Call") = false) : s.step n = s := by
  rw [Bool.or_eq_false_iff] at h
  simp [step, h.1, h.2]

theorem foldl_step_filter (ns : List Tree) (s : TaintState) :
    (ns.filter fun n => n.is "Assign" || n.is "Call").foldl step s = ns.foldl step s := by
  rw [List.foldl_filter]
  congr 1
  funext s n
  cases h : n.is "Assign" || n.is "Call" with
  | true => rw [if_pos rfl]
  | false => rw [if_neg (by simp), step_of_other s n h]

end TaintState

theorem Tree.taint_eq_foldl_events (t : Tree) : t.taint = t.events.foldl TaintState.step .empty :=
  (TaintState.foldl_step_filter t.preorder .empty).symm

end ThreatScan
