import ThreatScan.Proofs.Checked
import ThreatScan.Proofs.Taint.Chain
/-!
The flows of a tree are those that chains of assignments give it.

`sinkArguments` lists the positional arguments of the dangerous calls among the nodes, in order. An argument is `Reached` if
it is an input itself, or a variable tainted before the call; `FlowRecord` says what is to be reported of it. The flows
reported are exactly the records of the arguments that are reached (`taintFlows_forall₂_sinkArguments`): none is missing,
none is added, and each stands in its place.
-/
namespace ThreatScan

/-- A positional argument of a dangerous call, and the position of the call. -/
structure SinkArgument where
  position : Nat
  call : Tree
  sink : String
  arg : Tree

def sinkArgumentsAt (p : Nat) (n : Tree) : List SinkArgument :=
  if n.is "Call" then
    match n.dangerousCall? with
    | some sink => (n.partItems "args").map fun arg => ⟨p, n, sink, arg⟩
    | none => []
  else []

def sinkArguments (ns : List Tree) : List SinkArgument := ns.zipIdx.flatMap fun e => sinkArgumentsAt e.2 e.1

/-- The argument is an input, or a variable tainted before the call. -/
def Reached (ns : List Tree) (a : SinkArgument) : Prop :=
  a.arg.isInput = true ∨ ∃ v ∈ a.arg.variableName?, TaintedBefore ns a.position v

instance (ns : List Tree) : DecidablePred (Reached ns) := fun a => by
  unfold Reached
  infer_instance

/-- The record of a flow into an argument. An input flows directly, on the line of the call; a variable brings the line of
the last assignment before the call that tainted it. -/
inductive FlowRecord (ns : List Tree) (a : SinkArgument) : Value → Prop
  | direct (hi : a.arg.isInput = true) :
      FlowRecord ns a (.dict [("source", .str a.arg.outline), ("sink", .str a.sink), ("source_line", .int a.call.line),
        ("sink_line", .int a.call.line), ("severity", .str "critical"), ("type", .str "direct")])
  | through {v : String} {i : Nat} {n : Tree} (hi : a.arg.isInput = false) (hv : a.arg.variableName? = some v)
      (hl : LastTaint ns a.position v i) (hn : ns[i]? = some n) :
      FlowRecord ns a (.dict [("source", .str a.arg.outline), ("sink", .str a.sink), ("source_line", .int n.line),
        ("sink_line", .int a.call.line), ("severity", .str "critical"), ("type", .str "variable_flow"),
        ("tainted_var", .str v)])

/-! ## Arguments of more nodes -/

theorem sinkArguments_concat (ns : List Tree) (n : Tree) :
    sinkArguments (ns ++ [n]) = sinkArguments ns ++ sinkArgumentsAt ns.length n := by
  simp [sinkArguments, List.zipIdx_append]

theorem position_of_mem_sinkArgumentsAt {p : Nat} {n : Tree} {a : SinkArgument} (h : a ∈ sinkArgumentsAt p n) :
    a.position = p := by
  unfold sinkArgumentsAt at h
  split at h
  · split at h
    · obtain ⟨arg, -, rfl⟩ := List.mem_map.mp h
      rfl
    · simp at h
  · simp at h

theorem position_lt_of_mem_sinkArguments {ns : List Tree} {a : SinkArgument} (h : a ∈ sinkArguments ns) :
    a.position < ns.length := by
  obtain ⟨⟨n, p⟩, hp, ha⟩ := List.mem_flatMap.mp h
  rw [position_of_mem_sinkArgumentsAt ha]
  obtain ⟨hlt, -⟩ := List.getElem?_eq_some_iff.mp (List.mem_zipIdx_iff_getElem?.mp hp)
  exact hlt

theorem reached_append {ns : List Tree} (ms : List Tree) {a : SinkArgument} (hp : a.position ≤ ns.length) :
    Reached (ns ++ ms) a ↔ Reached ns a := by
  refine or_congr_right (exists_congr fun v => and_congr_right fun _ => ?_)
  exact taintedBefore_append ms hp

theorem FlowRecord.append {ns : List Tree} (ms : List Tree) {a : SinkArgument} {r : Value} (hp : a.position ≤ ns.length)
    (h : FlowRecord ns a r) : FlowRecord (ns ++ ms) a r := by
  cases h with
  | direct hi => exact .direct hi
  | through hi hv hl hn =>
    refine .through hi hv (hl.append ms hp) ?_
    rw [List.getElem?_append_left (Nat.lt_of_lt_of_le hl.1 hp)]
    exact hn

/-! ## What the state reports of one argument -/

section Argument
variable {ns : List Tree} {s : TaintState} (h : Tracks ns s) (a : SinkArgument) (hp : a.position = ns.length)
include h hp

theorem flow?_of_reached (hr : Reached ns a) :
    ∃ f, s.flow? a.sink a.call.line a.arg = some f ∧ FlowRecord ns a f.toValue := by
  unfold TaintState.flow?
  cases hi : a.arg.isInput with
  | true => exact ⟨_, rfl, .direct hi⟩
  | false =>
    obtain ⟨v, hv, ht⟩ := hr.resolve_left (by simp [hi])
    rw [hp] at ht
    have hs : s.isTainted v = true := (h.tainted v).mpr ht
    obtain ⟨i, n, hl, hn, hline⟩ := h.line v ht
    rw [Option.mem_def] at hv
    rw [← hp] at hl
    simp only [hv, hs, hline, Option.getD_some]
    exact ⟨_, rfl, .through hi hv hl hn⟩

theorem flow?_of_not_reached (hr : ¬ Reached ns a) : s.flow? a.sink a.call.line a.arg = none := by
  unfold Reached at hr
  rw [not_or, hp] at hr
  obtain ⟨hi, hnone⟩ := hr
  unfold TaintState.flow?
  rw [if_neg hi]
  cases hv : a.arg.variableName? with
  | none => rfl
  | some v =>
    have ht : ¬ s.isTainted v = true := fun hs => hnone ⟨v, hv, (h.tainted v).mp hs⟩
    simp only [ht]
    rfl

end Argument

/-! ## What the pass reports -/

/-- The flows that one node adds are those of its own arguments. -/
theorem flows_step (s : TaintState) (p : Nat) (n : Tree) : (s.step n).flows =
    s.flows ++ (sinkArgumentsAt p n).filterMap fun a => s.flow? a.sink a.call.line a.arg := by
  unfold TaintState.step sinkArgumentsAt
  cases ha : n.is "Assign" with
  | true =>
    have hc : n.is "Call" = false := by
      simp only [Tree.is, beq_iff_eq] at ha ⊢
      simp [ha]
    simp [hc]
  | false =>
    cases n.is "Call" with
    | true =>
      simp only [if_true, Bool.false_eq_true, if_false]
      rw [TaintState.flows_call]
      cases n.dangerousCall? with
      | none => rfl
      | some sink => simp [List.filterMap_map]
    | false => simp

theorem flows_forall₂_run (ns : List Tree) :
    List.Forall₂ (FlowRecord ns) ((sinkArguments ns).filter (Reached ns ·))
      ((ns.foldl TaintState.step .empty).flows.map TaintFlow.toValue) := by
  induction ns using List.reverseRecOn with
  | nil => exact .nil
  | append_singleton ns n ih =>
    have ht := tracks_run ns
    have hlt : ∀ a ∈ sinkArguments ns, a.position ≤ ns.length :=
      fun a ha => Nat.le_of_lt (position_lt_of_mem_sinkArguments ha)
    have hat : ∀ a ∈ sinkArgumentsAt ns.length n, a.position = ns.length :=
      fun a ha => position_of_mem_sinkArgumentsAt ha
    rw [List.foldl_append, List.foldl_cons, List.foldl_nil, flows_step _ ns.length n, List.map_append,
      sinkArguments_concat, List.filter_append]
    refine List.rel_append ?_ ?_
    · -- the arguments of earlier calls: nothing that follows bears on them
      have hsame : (sinkArguments ns).filter (Reached (ns ++ [n]) ·) = (sinkArguments ns).filter (Reached ns ·) :=
        List.filter_congr fun a ha => decide_eq_decide.mpr (reached_append [n] (hlt a ha))
      rw [hsame]
      have hold : ∀ a ∈ (sinkArguments ns).filter (Reached ns ·), a.position ≤ ns.length :=
        fun a ha => hlt a (List.mem_of_mem_filter ha)
      exact ((List.forall₂_and_left _ _).mpr ⟨hold, ih⟩).imp fun a r hr => hr.2.append [n] hr.1
    · rw [List.map_filterMap]
      refine forall₂_filter_filterMap ?_ ?_
      · intro a ha hr
        rw [reached_append [n] (Nat.le_of_eq (hat a ha))] at hr
        obtain ⟨f, hf, hrec⟩ := flow?_of_reached ht a (hat a ha) hr
        exact ⟨f.toValue, by rw [hf]; rfl, hrec.append [n] (Nat.le_of_eq (hat a ha))⟩
      · intro a ha hr
        rw [reached_append [n] (Nat.le_of_eq (hat a ha))] at hr
        rw [flow?_of_not_reached ht a (hat a ha) hr]
        rfl

/-- Every flow is the record of an argument. -/
theorem exists_argument_of_mem_flows {t : Tree} {r : Value} (h : r ∈ t.taintFlows.map TaintFlow.toValue) :
    ∃ a ∈ sinkArguments t.events, FlowRecord t.events a r := by
  rw [Tree.taintFlows, Tree.taint_eq_foldl_events] at h
  obtain ⟨a, ha, hr⟩ := exists_left_of_forall₂ (flows_forall₂_run t.events) h
  exact ⟨a, List.mem_of_mem_filter ha, hr⟩

/-- Every argument that is reached has its record among the flows. -/
theorem exists_flow_of_reached {t : Tree} {a : SinkArgument} (ha : a ∈ sinkArguments t.events) (hr : Reached t.events a) :
    ∃ r ∈ t.taintFlows.map TaintFlow.toValue, FlowRecord t.events a r := by
  rw [Tree.taintFlows, Tree.taint_eq_foldl_events]
  exact exists_right_of_forall₂ (flows_forall₂_run t.events) (List.mem_filter.mpr ⟨ha, decide_eq_true hr⟩)

end ThreatScan
