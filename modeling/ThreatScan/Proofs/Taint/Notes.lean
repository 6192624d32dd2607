import Mathlib.Data.List.Nodup
import ThreatScan.Proofs.Taint.State
/-!
The books that are kept of taint.

Going through a tree comes to a list of notes: an assignment that taints a variable, a dangerous call, a flow into one. A node
brings the notes that the state before it gives rise to (`notesOn`), and the state behind the node is the one before it with
these notes entered (`step_eq_foldl_note`).

A note of a tainted variable is entered in three places: among the tainted names, among the lines and among the sources. The books
`Agree` if the three tell the same, and if every flow through a variable goes back to one of the sources. Each note keeps this
(`Agree.note`), since a flow is only noted of a variable that is tainted by then, and a source stays in the books. So they agree
after any number of notes, and nothing that was tainted is ever taken back.
-/
namespace ThreatScan

inductive TaintNote where
  | source (r : TaintSource)
  | sink (r : TaintSink)
  | flow (f : TaintFlow)
  deriving DecidableEq, Repr

namespace TaintState

def note (s : TaintState) : TaintNote → TaintState
  | .source r => taint r.line r.source s r.target
  | .sink r => { s with sinks := s.sinks ++ [r] }
  | .flow f => { s with flows := s.flows ++ [f] }

/-- The notes that a node brings: of an assignment one for each variable, of a call itself and the flows of its arguments. -/
def notesOn (s : TaintState) (n : Tree) : List TaintNote :=
  if n.is "Assign" then
    if s.valueTainted (n.part "value") then
      n.assignedNames.map fun v => .source ⟨(n.part "value").outline, n.line, v⟩
    else []
  else if n.is "Call" then
    match n.dangerousCall? with
    | none => []
    | some sink =>
      .sink ⟨sink, n.line, (n.partItems "args").map Tree.outline⟩ ::
        ((n.partItems "args").filterMap (s.flow? sink n.line)).map .flow
  else []

def notesAlong (s : TaintState) : List Tree → List TaintNote
  | [] => []
  | n :: ns => s.notesOn n ++ notesAlong (s.step n) ns

def lastSource? (s : TaintState) (v : String) : Option TaintSource := (s.sources.filter (·.target == v)).getLast?

/-- If the flow goes through a variable, that is tainted, and the flow starts on the line of a source of it. -/
def Backed (s : TaintState) (f : TaintFlow) : Prop :=
  ∀ v ∈ f.via, v ∈ s.tainted ∧ ∃ r ∈ s.sources, r.target = v ∧ r.line = f.sourceLine

/-- The tainted names are the names with a line and the targets of the sources, each of them once; the line of a name is that of
its last source; and every flow through a variable goes back to a source. -/
structure Agree (s : TaintState) : Prop where
  keys : s.assigned.map Prod.fst = s.tainted
  once : s.tainted.Nodup
  targets : ∀ v, v ∈ s.tainted ↔ v ∈ s.sources.map TaintSource.target
  line : ∀ v ∈ s.tainted, ∃ r, s.lastSource? v = some r ∧ s.assignedLine? v = some r.line
  flows : ∀ f ∈ s.flows, s.Backed f

end TaintState

namespace Tree

def taintNotes (t : Tree) : List TaintNote := TaintState.empty.notesAlong t.preorder

def taintAfter (t : Tree) (k : Nat) : TaintState := (t.taintNotes.take k).foldl TaintState.note .empty

end Tree

namespace TaintState

variable {s : TaintState}

/-! ## A node enters its notes -/

theorem foldl_note_flows (fs : List TaintFlow) (s : TaintState) :
    (fs.map TaintNote.flow).foldl note s = { s with flows := s.flows ++ fs } := by
  induction fs generalizing s with
  | nil => simp
  | cons f rest ih =>
    rw [List.map_cons, List.foldl_cons, ih]
    simp [note]

theorem step_eq_foldl_note (s : TaintState) (n : Tree) : s.step n = (s.notesOn n).foldl note s := by
  unfold step notesOn
  split
  · cases h : s.valueTainted (n.part "value") with
    | false => rw [assign_of_clean s n h]; rfl
    | true => rw [assign_of_tainted s n h, if_pos rfl, List.foldl_map]; rfl
  · split
    · unfold call
      cases n.dangerousCall? with
      | none => rfl
      | some sink =>
        dsimp only
        rw [List.foldl_cons, foldl_note_flows]
        rfl
    · rfl

theorem notesAlong_append (s : TaintState) (ns ms : List Tree) :
    s.notesAlong (ns ++ ms) = s.notesAlong ns ++ (ns.foldl step s).notesAlong ms := by
  induction ns generalizing s with
  | nil => rfl
  | cons n rest ih => rw [List.cons_append, notesAlong, notesAlong, ih, List.foldl_cons, List.append_assoc]

theorem foldl_note_notesAlong (s : TaintState) (ns : List Tree) :
    (s.notesAlong ns).foldl note s = ns.foldl step s := by
  induction ns generalizing s with
  | nil => rfl
  | cons n rest ih => rw [notesAlong, List.foldl_append, ← step_eq_foldl_note, ih, List.foldl_cons]

/-! ## One note -/

theorem keys_noteLine (name : String) (line : Nat) (lines : List (String × Nat)) :
    (noteLine name line lines).map Prod.fst =
      if (lines.map Prod.fst).contains name then lines.map Prod.fst else lines.map Prod.fst ++ [name] := by
  induction lines with
  | nil => rfl
  | cons e rest ih =>
    rw [noteLine]
    by_cases h : e.1 = name
    · simp [h]
    · rw [if_neg h, List.map_cons, ih]
      by_cases hr : name ∈ rest.map Prod.fst
      · simp [hr]
      · simp [hr, Ne.symm h]

theorem mem_tainted_taint (line : Nat) (source : String) (s : TaintState) (name v : String) :
    v ∈ (taint line source s name).tainted ↔ v ∈ s.tainted ∨ v = name := by
  have h := isTainted_taint line source s name v
  unfold isTainted at h
  rw [← List.contains_iff_mem, h]
  simp

theorem tainted_subset_note (s : TaintState) (c : TaintNote) : s.tainted ⊆ (s.note c).tainted := by
  cases c with
  | source r => exact fun v hv => (mem_tainted_taint r.line r.source s r.target v).mpr (.inl hv)
  | sink _ => exact fun _ hv => hv
  | flow _ => exact fun _ hv => hv

theorem sources_subset_note (s : TaintState) (c : TaintNote) : s.sources ⊆ (s.note c).sources := by
  cases c with
  | source r => exact List.subset_append_left _ _
  | sink _ => exact fun _ hr => hr
  | flow _ => exact fun _ hr => hr

/-- What backs a flow stays in the books. -/
theorem Backed.note {f : TaintFlow} (h : s.Backed f) (c : TaintNote) : (s.note c).Backed f := by
  intro v hv
  obtain ⟨ht, r, hr, htarget, hline⟩ := h v hv
  exact ⟨tainted_subset_note s c ht, r, sources_subset_note s c hr, htarget, hline⟩

theorem lastSource?_taint (line : Nat) (source : String) (s : TaintState) (name v : String) :
    (taint line source s name).lastSource? v = if v = name then some ⟨source, line, name⟩ else s.lastSource? v := by
  unfold lastSource? taint
  by_cases h : v = name
  · simp [h]
  · simp [h, Ne.symm h]

theorem agree_empty : empty.Agree where
  keys := rfl
  once := List.nodup_nil
  targets _ := Iff.rfl
  line _ hv := absurd hv List.not_mem_nil
  flows _ hf := absurd hf List.not_mem_nil

namespace Agree

theorem taint (h : s.Agree) (line : Nat) (source name : String) : (taint line source s name).Agree where
  keys := by
    have hkeys := keys_noteLine name line s.assigned
    rw [h.keys] at hkeys
    exact hkeys
  once := by
    unfold TaintState.taint
    dsimp only
    split
    · exact h.once
    · next hnew =>
      rw [← List.concat_eq_append]
      exact h.once.concat (by simpa using hnew)
  targets v := by
    rw [mem_tainted_taint, h.targets]
    simp [TaintState.taint, eq_comm]
  line v hv := by
    rw [lastSource?_taint, assignedLine?_taint]
    by_cases hname : v = name
    · rw [if_pos hname, if_pos hname]
      exact ⟨_, rfl, rfl⟩
    · rw [if_neg hname, if_neg hname]
      exact h.line v (((mem_tainted_taint line source s name v).mp hv).resolve_right hname)
  flows f hf := (h.flows f hf).note (.source ⟨source, line, name⟩)

theorem note (h : s.Agree) (c : TaintNote) (hc : ∀ f, c = .flow f → s.Backed f) : (s.note c).Agree := by
  cases c with
  | source r => exact h.taint r.line r.source r.target
  | sink r => exact ⟨h.keys, h.once, h.targets, h.line, h.flows⟩
  | flow f =>
    refine ⟨h.keys, h.once, h.targets, h.line, fun g hg => ?_⟩
    rcases List.mem_append.mp hg with hg | hg
    · exact h.flows g hg
    · rw [List.mem_singleton.mp hg]
      exact hc f rfl

end Agree

theorem mem_of_lastSource? {v : String} {r : TaintSource} (h : s.lastSource? v = some r) : r ∈ s.sources ∧ r.target = v := by
  obtain ⟨hr, htarget⟩ := List.mem_filter.mp (List.mem_of_getLast? h)
  exact ⟨hr, by simpa using htarget⟩

namespace Agree

/-- A variable that makes a flow has a line by then, so the line of the call never takes its place. -/
theorem backed_of_flow? (h : s.Agree) {sink : String} {line : Nat} {arg : Tree} {f : TaintFlow}
    (hf : s.flow? sink line arg = some f) : s.Backed f := by
  unfold flow? at hf
  split at hf
  · cases hf
    exact fun v hv => by cases hv
  · split at hf
    · next name _ =>
      split at hf
      · next ht =>
        cases hf
        rintro v ⟨⟩
        have hv : name ∈ s.tainted := List.contains_iff_mem.mp ht
        obtain ⟨r, hlast, hline⟩ := h.line name hv
        obtain ⟨hr, htarget⟩ := mem_of_lastSource? hlast
        exact ⟨hv, r, hr, htarget, by rw [hline, Option.getD_some]⟩
      · cases hf
    · cases hf

theorem backed_of_mem_notesOn (h : s.Agree) {n : Tree} {f : TaintFlow} (hf : .flow f ∈ s.notesOn n) : s.Backed f := by
  unfold notesOn at hf
  split at hf
  · split at hf
    · simp at hf
    · cases hf
  · split at hf
    · split at hf
      · cases hf
      · obtain ⟨arg, -, harg⟩ : ∃ arg ∈ n.partItems "args", s.flow? _ n.line arg = some f := by simpa using hf
        exact h.backed_of_flow? harg
    · cases hf

/-! ## Any number of notes -/

theorem foldl_note (h : s.Agree) {cs : List TaintNote} (hcs : ∀ f, .flow f ∈ cs → s.Backed f) :
    (cs.foldl TaintState.note s).Agree := by
  induction cs generalizing s with
  | nil => exact h
  | cons c rest ih =>
    have hc : (s.note c).Agree := h.note c fun f hf => hcs f (hf ▸ List.mem_cons_self)
    exact ih hc fun f hf => (hcs f (List.mem_cons_of_mem c hf)).note c

/-- The notes may break off inside a node; what of them is entered was backed before the node. -/
theorem foldl_take_notesAlong (h : s.Agree) (ns : List Tree) (k : Nat) :
    (((s.notesAlong ns).take k).foldl TaintState.note s).Agree := by
  induction ns generalizing s k with
  | nil =>
    rw [notesAlong, List.take_nil]
    exact h
  | cons n rest ih =>
    have hbacked : ∀ f, .flow f ∈ (s.notesOn n).take k → s.Backed f := fun f hf =>
      h.backed_of_mem_notesOn (List.mem_of_mem_take hf)
    have hstep : (s.step n).Agree := by
      rw [step_eq_foldl_note]
      exact h.foldl_note fun f => h.backed_of_mem_notesOn
    rw [notesAlong, List.take_append, List.foldl_append]
    rcases Nat.le_total k (s.notesOn n).length with hle | hle
    · rw [Nat.sub_eq_zero_of_le hle, List.take_zero]
      exact h.foldl_note hbacked
    · rw [List.take_of_length_le hle, ← step_eq_foldl_note]
      exact ih hstep _

end Agree

theorem tainted_subset_foldl_note (cs : List TaintNote) (s : TaintState) : s.tainted ⊆ (cs.foldl note s).tainted := by
  induction cs generalizing s with
  | nil => exact fun _ hv => hv
  | cons c rest ih => exact fun v hv => ih (s.note c) (tainted_subset_note s c hv)

end TaintState

namespace Tree

theorem tainted_taintAfter_subset (t : Tree) {j k : Nat} (h : j ≤ k) : (t.taintAfter j).tainted ⊆ (t.taintAfter k).tainted := by
  have hsplit := List.take_append_drop j (t.taintNotes.take k)
  rw [List.take_take, Nat.min_eq_left h] at hsplit
  unfold taintAfter
  rw [← hsplit, List.foldl_append]
  exact TaintState.tainted_subset_foldl_note _ _

/-- The state between two nodes is one of those that the notes lead through. -/
theorem exists_taintAfter_eq (t : Tree) (m : Nat) :
    ∃ k, t.taintAfter k = (t.preorder.take m).foldl TaintState.step .empty := by
  have hnotes := TaintState.notesAlong_append .empty (t.preorder.take m) (t.preorder.drop m)
  rw [List.take_append_drop] at hnotes
  refine ⟨(TaintState.empty.notesAlong (t.preorder.take m)).length, ?_⟩
  rw [taintAfter, taintNotes, hnotes, List.take_left, TaintState.foldl_note_notesAlong]

/-- The books on taint agree at every point of the way through a tree, between nodes and inside them. -/
theorem taint_books_agree (t : Tree) :
    t.taintAfter 0 = .empty ∧ t.taintAfter t.taintNotes.length = t.taint ∧
    (∀ m, ∃ k, t.taintAfter k = (t.preorder.take m).foldl TaintState.step .empty) ∧
    (∀ k, (t.taintAfter k).Agree) ∧
    ∀ j k, j ≤ k → (t.taintAfter j).tainted ⊆ (t.taintAfter k).tainted := by
  refine ⟨rfl, ?_, t.exists_taintAfter_eq, fun k => ?_, fun j k => t.tainted_taintAfter_subset⟩
  · rw [taintAfter, List.take_length]
    exact TaintState.foldl_note_notesAlong .empty t.preorder
  · exact TaintState.agree_empty.foldl_take_notesAlong t.preorder k

end Tree
end ThreatScan
