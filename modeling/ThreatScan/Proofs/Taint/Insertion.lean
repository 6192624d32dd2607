import ThreatScan.Proofs.Taint.State
import ThreatScan.Proofs.Taint.Views
/-!
What more code does to the flows that were found without it.

A variable stays tainted, and a flow that was found stays found (`grows_run`). So of two states that meet the same nodes,
the one that starts with more tainted variables ends with more of them, and reports every flow that the other reports
(`Below.run`). Statements put into a module add flows and remove none. What they can change is the line of a source: it is
the line at which the variable was tainted last.
-/
namespace ThreatScan

def TaintFlow.unlined (f : TaintFlow) : TaintFlow := { f with sourceLine := 0 }

/-! ## Later states -/

/-- The second state has all that the first one has, and its flows come first. -/
structure Grows (s s' : TaintState) : Prop where
  tainted : ∀ v, s.isTainted v = true → s'.isTainted v = true
  flows : s.flows <+: s'.flows

theorem Grows.refl (s : TaintState) : Grows s s := ⟨fun _ hv => hv, List.prefix_refl _⟩

theorem Grows.trans {s t u : TaintState} (h : Grows s t) (h' : Grows t u) : Grows s u :=
  ⟨fun v hv => h'.tainted v (h.tainted v hv), h.flows.trans h'.flows⟩

theorem grows_assign (s : TaintState) (n : Tree) : Grows s (s.assign n) where
  tainted v hv := (s.isTainted_assign n v).mpr (.inl hv)
  flows := ⟨[], by rw [List.append_nil, TaintState.flows_assign]⟩

theorem grows_call (s : TaintState) (n : Tree) : Grows s (s.call n) where
  tainted v hv := by rwa [TaintState.isTainted_call]
  flows := by
    rw [TaintState.flows_call]
    exact List.prefix_append _ _

theorem grows_step (s : TaintState) (n : Tree) : Grows s (s.step n) := by
  unfold TaintState.step
  split
  · exact grows_assign s n
  · split
    · exact grows_call s n
    · exact Grows.refl s

theorem grows_run (ns : List Tree) (s : TaintState) : Grows s (ns.foldl TaintState.step s) := by
  induction ns generalizing s with
  | nil => exact Grows.refl s
  | cons n rest ih => exact (grows_step s n).trans (ih (s.step n))

/-! ## States with more tainted variables -/

theorem filterMap_sublist_filterMap {α β : Type} {f g : α → Option β} {l : List α}
    (h : ∀ a ∈ l, ∀ b, f a = some b → g a = some b) : (l.filterMap f).Sublist (l.filterMap g) := by
  induction l with
  | nil => exact List.Sublist.slnil
  | cons a rest ih =>
    have hrest := ih fun x hx => h x (List.mem_cons_of_mem a hx)
    cases hf : f a with
    | some b =>
      rw [List.filterMap_cons_some hf, List.filterMap_cons_some (h a List.mem_cons_self b hf)]
      exact hrest.cons_cons b
    | none =>
      rw [List.filterMap_cons_none hf]
      exact hrest.trans ((List.sublist_cons_self a rest).filterMap g)

/-- The second state has the tainted variables of the first one, and its flows up to the lines of their sources, with
others in between. -/
structure Below (s s' : TaintState) : Prop where
  tainted : ∀ v, s.isTainted v = true → s'.isTainted v = true
  flows : (s.flows.map TaintFlow.unlined).Sublist (s'.flows.map TaintFlow.unlined)

theorem Grows.below {s s' : TaintState} (h : Grows s s') : Below s s' :=
  ⟨h.tainted, h.flows.sublist.map TaintFlow.unlined⟩

namespace Below
variable {s s' : TaintState} (h : Below s s')
include h

theorem valueTainted {value : Tree} (hv : s.valueTainted value = true) : s'.valueTainted value = true := by
  rw [TaintState.valueTainted_iff] at hv ⊢
  exact hv.imp_right fun ⟨v, hmem, ht⟩ => ⟨v, hmem, h.tainted v ht⟩

/-- An argument that makes a flow still makes it. The line of its source is the one noted for the variable, which need not
be the same. -/
theorem flow? {sink : String} {line : Nat} {arg : Tree} {f : TaintFlow}
    (hf : (s.flow? sink line arg).map TaintFlow.unlined = some f) :
    (s'.flow? sink line arg).map TaintFlow.unlined = some f := by
  unfold TaintState.flow? at hf ⊢
  cases hi : arg.isInput with
  | true => simpa [hi] using hf
  | false =>
    rw [hi, if_neg Bool.false_ne_true] at hf
    rw [if_neg Bool.false_ne_true]
    cases hv : arg.variableName? with
    | none => simp [hv] at hf
    | some v =>
      cases ht : s.isTainted v with
      | false => simp [hv, ht] at hf
      | true => simpa [hv, ht, h.tainted v ht, TaintFlow.unlined] using hf

theorem assign (n : Tree) : Below (s.assign n) (s'.assign n) where
  tainted v hv := by
    rw [TaintState.isTainted_assign] at hv ⊢
    exact hv.imp (h.tainted v) fun ⟨hvalue, hname⟩ => ⟨h.valueTainted hvalue, hname⟩
  flows := by
    rw [TaintState.flows_assign, TaintState.flows_assign]
    exact h.flows

theorem call (n : Tree) : Below (s.call n) (s'.call n) where
  tainted v hv := by
    rw [TaintState.isTainted_call] at hv ⊢
    exact h.tainted v hv
  flows := by
    rw [TaintState.flows_call, TaintState.flows_call, List.map_append, List.map_append]
    refine h.flows.append ?_
    cases n.dangerousCall? with
    | none => exact List.Sublist.slnil
    | some sink =>
      simp only [Option.map_some, Option.getD_some, List.map_filterMap]
      exact filterMap_sublist_filterMap fun arg _ f => h.flow?

theorem step (n : Tree) : Below (s.step n) (s'.step n) := by
  unfold TaintState.step
  split
  · exact h.assign n
  · split
    · exact h.call n
    · exact h

theorem run (ns : List Tree) : Below (ns.foldl TaintState.step s) (ns.foldl TaintState.step s') := by
  induction ns generalizing s s' with
  | nil => exact h
  | cons n rest ih => exact ih (h.step n)

end Below

/-! ## Statements put into a module -/

namespace Tree

theorem taint_moduleOf (body : List Tree) :
    (moduleOf body).taint = (preorderItems body).foldl TaintState.step .empty := by
  rw [taint, preorder_moduleOf, List.foldl_cons, TaintState.step_of_other _ _ rfl]

/-- The statements that come last are met in the state that those before them leave. -/
theorem taint_moduleOf_append (before after : List Tree) :
    (moduleOf (before ++ after)).taint = (preorderItems after).foldl TaintState.step (moduleOf before).taint := by
  rw [taint_moduleOf, taint_moduleOf, preorderItems_append, List.foldl_append]

theorem prefix_taintFlows_moduleOf (before after : List Tree) :
    (moduleOf before).taintFlows <+: (moduleOf (before ++ after)).taintFlows := by
  unfold taintFlows
  rw [taint_moduleOf_append]
  exact (grows_run _ _).flows

end Tree

section
open ThreatScan.Tree

/-- `cmd = input()` on the first line, `eval(cmd)` on the third, and between them `cmd = input()` once more: the flow is
still found, with the second line as that of its source. -/
example :
    let read (line : Nat) := assignAt line (nameAt line "cmd") (callAt line (nameAt line "input") [])
    let call := exprAt 3 (callAt 3 (nameAt 3 "eval") [nameAt 3 "cmd"])
    (moduleOf [read 1, call]).taintFlows = [⟨"cmd", "eval", 1, 3, some "cmd"⟩] ∧
      (moduleOf [read 1, read 2, call]).taintFlows = [⟨"cmd", "eval", 2, 3, some "cmd"⟩] := by
  decide

end
end ThreatScan
