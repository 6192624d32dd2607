import Mathlib.Logic.Relation
import ThreatScan.Proofs.Syntax.Agreement
import ThreatScan.Proofs.Taint.Views
/-!
The lines of control structures.

A control structure is recorded with the lines of its branches and with an estimate of its last line. Both follow the
structures inside it, each by a walk of its own. What is proved:

* the lines of a body are those of the statements that are reached from it by going into branches any number of times
  (`InBranch`), in strictly increasing order (`bodyLines_exact`);
* the estimate takes in fewer statements (`Counted`). It is the greatest of their lines and of the structure's own
  (`le_endLine_iff`); every other statement inside the structure is passed over (`counted_or_passedOver`). So the estimate
  bounds all recorded lines exactly if no statement that is passed over stands behind all that are taken in
  (`end_bounds_lines_iff`).
-/
namespace ThreatScan

/-! ## Increasing lines -/

theorem insertLine_pairwise (n : Nat) {lines : List Nat} (h : lines.Pairwise (· < ·)) :
    (insertLine n lines).Pairwise (· < ·) := by
  induction lines with
  | nil => simp [insertLine]
  | cons m rest ih =>
    obtain ⟨hm, hrest⟩ := List.pairwise_cons.mp h
    unfold insertLine
    split
    · next hlt =>
      refine List.pairwise_cons.mpr ⟨?_, h⟩
      intro x hx
      rcases List.mem_cons.mp hx with rfl | hx
      · exact hlt
      · exact Nat.lt_trans hlt (hm x hx)
    · split
      · exact h
      · next hle hne =>
        refine List.pairwise_cons.mpr ⟨?_, ih hrest⟩
        intro x hx
        rcases mem_insertLine.mp hx with rfl | hx
        · omega
        · exact hm x hx

theorem sortedLines_pairwise (lines : List Nat) : (sortedLines lines).Pairwise (· < ·) := by
  induction lines with
  | nil => exact List.Pairwise.nil
  | cons n rest ih => exact insertLine_pairwise n ih

namespace Tree
open Relation

/-- A statement in one of the branches of a control structure. Handlers and a last branch are those of `Try` alone. -/
inductive InBranch (s t : Tree) : Prop
  | body (hs : isFlow s.kind = true) (ht : t ∈ s.partItems "body")
  | orelse (hs : isFlow s.kind = true) (ht : t ∈ s.partItems "orelse")
  | handler {h : Tree} (hs : s.kind = "Try") (hh : h ∈ s.partItems "handlers") (ht : t ∈ h.partItems "body")
  | final (hs : s.kind = "Try") (ht : t ∈ s.partItems "finalbody")

/-! ## Statements in branches -/

theorem sizeOf_partOf_le (key : String) (parts : List (String × Tree)) : sizeOf (partOf key parts) ≤ sizeOf parts := by
  induction parts with
  | nil => simp [partOf]
  | cons part rest ih =>
    obtain ⟨k, t⟩ := part
    unfold partOf
    split
    · simp only [List.cons.sizeOf_spec, Prod.mk.sizeOf_spec]
      omega
    · simp only [List.cons.sizeOf_spec]
      omega

theorem sizeOf_lt_of_mem_partItems {t u : Tree} {key : String} (h : u ∈ t.partItems key) : sizeOf u < sizeOf t := by
  cases t with
  | node k p parts =>
    have hparts := sizeOf_partOf_le key parts
    have hitems : u ∈ (partOf key parts).items := h
    cases hpart : partOf key parts with
    | list ts =>
      rw [hpart] at hparts hitems
      have hmem := List.sizeOf_lt_of_mem (show u ∈ ts from hitems)
      simp only [list.sizeOf_spec, node.sizeOf_spec] at hparts ⊢
      omega
    | _ => simp [hpart, items] at hitems
  | _ => simp [partItems, part, items] at h

theorem InBranch.sizeOf_lt {s t : Tree} (h : InBranch s t) : sizeOf t < sizeOf s := by
  cases h with
  | body _ ht => exact sizeOf_lt_of_mem_partItems ht
  | orelse _ ht => exact sizeOf_lt_of_mem_partItems ht
  | handler _ hh ht => exact Nat.lt_trans (sizeOf_lt_of_mem_partItems ht) (sizeOf_lt_of_mem_partItems hh)
  | final _ ht => exact sizeOf_lt_of_mem_partItems ht

/-! ## Lines that are reached -/

theorem mem_flowLinesOf {n : Nat} {ts : List Tree} : n ∈ flowLinesOf ts ↔ ∃ t ∈ ts, n ∈ flowLines t := by
  induction ts with
  | nil => simp [flowLinesOf]
  | cons t rest ih => simp [flowLinesOf, ih]

theorem mem_flowLinesIn {n : Nat} {key : String} {parts : List (String × Tree)} :
    n ∈ flowLinesIn key parts ↔ ∃ t ∈ (partOf key parts).items, n ∈ flowLines t := by
  induction parts with
  | nil => simp [flowLinesIn, partOf, items]
  | cons part rest ih =>
    obtain ⟨k, t⟩ := part
    unfold flowLinesIn partOf
    split
    · cases t <;> simp [branchLines, items, mem_flowLinesOf]
    · exact ih

theorem mem_handlerLinesOf {n : Nat} {hs : List Tree} :
    n ∈ handlerLinesOf hs ↔ ∃ h ∈ hs, ∃ t ∈ h.partItems "body", n ∈ flowLines t := by
  have hone : ∀ h : Tree, n ∈ handledLines h ↔ ∃ t ∈ h.partItems "body", n ∈ flowLines t := by
    intro h
    cases h with
    | node k p parts => exact mem_flowLinesIn
    | _ => simp [handledLines, partItems, part, items]
  induction hs with
  | nil => simp [handlerLinesOf]
  | cons h rest ih => simp [handlerLinesOf, hone, ih]

theorem mem_handlerLinesIn {n : Nat} {parts : List (String × Tree)} : n ∈ handlerLinesIn parts ↔
    ∃ h ∈ (partOf "handlers" parts).items, ∃ t ∈ h.partItems "body", n ∈ flowLines t := by
  induction parts with
  | nil => simp [handlerLinesIn, partOf, items]
  | cons part rest ih =>
    obtain ⟨k, t⟩ := part
    unfold handlerLinesIn partOf
    split
    · cases t <;> simp [handlerLines, items, mem_handlerLinesOf]
    · exact ih

theorem exists_inBranch_iff {s : Tree} {P : Tree → Prop} : (∃ t, InBranch s t ∧ P t) ↔
    (isFlow s.kind = true ∧ ((∃ t ∈ s.partItems "body", P t) ∨ ∃ t ∈ s.partItems "orelse", P t)) ∨
    (s.kind = "Try" ∧ ((∃ h ∈ s.partItems "handlers", ∃ t ∈ h.partItems "body", P t) ∨
      ∃ t ∈ s.partItems "finalbody", P t)) := by
  constructor
  · rintro ⟨t, hbranch, ht⟩
    cases hbranch with
    | body hs hmem => exact .inl ⟨hs, .inl ⟨t, hmem, ht⟩⟩
    | orelse hs hmem => exact .inl ⟨hs, .inr ⟨t, hmem, ht⟩⟩
    | handler hs hh hmem => exact .inr ⟨hs, .inl ⟨_, hh, t, hmem, ht⟩⟩
    | final hs hmem => exact .inr ⟨hs, .inr ⟨t, hmem, ht⟩⟩
  · rintro (⟨hs, ⟨t, hmem, ht⟩ | ⟨t, hmem, ht⟩⟩ | ⟨hs, ⟨h, hh, t, hmem, ht⟩ | ⟨t, hmem, ht⟩⟩)
    · exact ⟨t, .body hs hmem, ht⟩
    · exact ⟨t, .orelse hs hmem, ht⟩
    · exact ⟨t, .handler hs hh hmem, ht⟩
    · exact ⟨t, .final hs hmem, ht⟩

/-- One step of the walk: the line of the statement itself, and those of the statements in its branches. -/
theorem mem_flowLines {s : Tree} {n : Nat} : n ∈ flowLines s ↔ s.line? = some n ∨ ∃ t, InBranch s t ∧ n ∈ flowLines t := by
  rw [exists_inBranch_iff]
  cases s with
  | node k p parts =>
    have hpart : ∀ key, (node k p parts).partItems key = (partOf key parts).items := fun _ => rfl
    have hkind : (node k p parts).kind = k := rfl
    have htry : k = "Try" → isFlow k = true := by rintro rfl; rfl
    rw [flowLines, List.mem_append, Option.mem_toList]
    refine or_congr Iff.rfl ?_
    simp only [hkind, hpart, List.mem_ite_nil_right, List.mem_append, mem_flowLinesIn, mem_handlerLinesIn]
    constructor
    · rintro ⟨hflow, ((h | ⟨hk, h⟩) | h) | ⟨hk, h⟩⟩
      · exact .inl ⟨hflow, .inl h⟩
      · exact .inr ⟨hk, .inl h⟩
      · exact .inl ⟨hflow, .inr h⟩
      · exact .inr ⟨hk, .inr h⟩
    · rintro (⟨hflow, h | h⟩ | ⟨hk, h | h⟩)
      · exact ⟨hflow, .inl (.inl (.inl h))⟩
      · exact ⟨hflow, .inl (.inr h)⟩
      · exact ⟨htry hk, .inl (.inl (.inr ⟨hk, h⟩))⟩
      · exact ⟨htry hk, .inr ⟨hk, h⟩⟩
  | _ => simp [flowLines, line?, position?, kind, isFlow]

theorem mem_flowLines_iff_reached {s : Tree} {n : Nat} :
    n ∈ flowLines s ↔ ∃ t, ReflTransGen InBranch s t ∧ t.line? = some n := by
  constructor
  · intro h
    rcases mem_flowLines.mp h with hline | ⟨t, ht, hn⟩
    · exact ⟨s, .refl, hline⟩
    · obtain ⟨u, hu, hline⟩ := mem_flowLines_iff_reached.mp hn
      exact ⟨u, .head ht hu, hline⟩
  · rintro ⟨t, ht, hline⟩
    induction ht using ReflTransGen.head_induction_on with
    | refl => exact mem_flowLines.mpr (.inl hline)
    | head hstep _ ih => exact mem_flowLines.mpr (.inr ⟨_, hstep, ih⟩)
termination_by sizeOf s
decreasing_by exact ht.sizeOf_lt

theorem mem_bodyLines {body : List Tree} {n : Nat} :
    n ∈ bodyLines body ↔ ∃ s ∈ body, ∃ t, ReflTransGen InBranch s t ∧ t.line? = some n := by
  rw [bodyLines, mem_sortedLines, mem_flowLinesOf]
  simp only [mem_flowLines_iff_reached]

/-- The lines of a body are exact: they increase strictly, and they are the lines of the statements that are reached from it
through the branches of control structures. -/
theorem bodyLines_exact (body : List Tree) :
    (bodyLines body).Pairwise (· < ·) ∧
    ∀ n, n ∈ bodyLines body ↔ ∃ s ∈ body, ∃ t, ReflTransGen InBranch s t ∧ t.line? = some n := by
  refine ⟨sortedLines_pairwise _, fun n => ?_⟩
  rw [mem_bodyLines]

/-! ## The last line of a control structure -/

/-- A statement whose line the estimate of the end takes in: one of a branch, or one that the estimate of a structure in the
body takes in. -/
inductive Counted : Tree → Tree → Prop
  | body {s u : Tree} (hu : u ∈ s.partItems "body") : Counted s u
  | orelse {s u : Tree} (hu : u ∈ s.partItems "orelse") : Counted s u
  | final {s u : Tree} (hu : u ∈ s.partItems "finalbody") : Counted s u
  | nested {s b u : Tree} (hb : b ∈ s.partItems "body") (hflow : isFlow b.kind = true) (hu : Counted b u) : Counted s u

/-- A statement inside a control structure that the estimate of the end passes over: one below a handler, one inside a
structure of the second or the last branch, or one that is passed over in a structure of the body. -/
inductive PassedOver : Tree → Tree → Prop
  | handler {s h b u : Tree} (hs : s.kind = "Try") (hh : h ∈ s.partItems "handlers") (hb : b ∈ h.partItems "body")
      (hu : ReflTransGen InBranch b u) : PassedOver s u
  | orelse {s b u : Tree} (hs : isFlow s.kind = true) (hb : b ∈ s.partItems "orelse") (hu : TransGen InBranch b u) :
      PassedOver s u
  | final {s b u : Tree} (hs : s.kind = "Try") (hb : b ∈ s.partItems "finalbody") (hu : TransGen InBranch b u) :
      PassedOver s u
  | nested {s b u : Tree} (hs : isFlow s.kind = true) (hb : b ∈ s.partItems "body") (hu : PassedOver b u) : PassedOver s u

theorem PassedOver.inside {s u : Tree} (h : PassedOver s u) : TransGen InBranch s u := by
  induction h with
  | handler hs hh hb hu => exact .head' (.handler hs hh hb) hu
  | orelse hs hb hu => exact .head (.orelse hs hb) hu
  | final hs hb hu => exact .head (.final hs hb) hu
  | nested hs hb _ ih => exact .head (.body hs hb) ih

theorem InBranch.isFlow {s t : Tree} (h : InBranch s t) : isFlow s.kind = true := by
  cases h with
  | body hs _ => exact hs
  | orelse hs _ => exact hs
  | handler hs _ _ => rw [hs]; rfl
  | final hs _ => rw [hs]; rfl

/-- No statement inside a control structure is left out: it is taken in or passed over. -/
theorem counted_or_passedOver {s u : Tree} (h : TransGen InBranch s u) : Counted s u ∨ PassedOver s u := by
  induction h using TransGen.head_induction_on with
  | single h =>
    cases h with
    | body _ hu => exact .inl (.body hu)
    | orelse _ hu => exact .inl (.orelse hu)
    | handler hs hh hu => exact .inr (.handler hs hh hu .refl)
    | final _ hu => exact .inl (.final hu)
  | head h hu ih =>
    cases h with
    | body hs hb =>
      obtain ⟨c, hc, -⟩ := TransGen.head'_iff.mp hu
      exact ih.imp (.nested hb hc.isFlow) (.nested hs hb)
    | orelse hs hb => exact .inr (.orelse hs hb hu)
    | handler hs hh hb => exact .inr (.handler hs hh hb hu.to_reflTransGen)
    | final hs hb => exact .inr (.final hs hb hu)

theorem foldl_max_le_iff {lines : List Nat} {a m : Nat} : lines.foldl max a ≤ m ↔ a ≤ m ∧ ∀ n ∈ lines, n ≤ m := by
  induction lines generalizing a with
  | nil => simp
  | cons n rest ih => rw [List.foldl_cons, ih, Nat.max_le, List.forall_mem_cons, and_assoc]

theorem line_le_iff {t : Tree} {m : Nat} : t.line ≤ m ↔ ∀ n, t.line? = some n → n ≤ m := by
  unfold line
  cases t.line? <;> simp

theorem lastTopLine_le_iff {body : List Tree} {m : Nat} : lastTopLine body ≤ m ↔ ∀ u ∈ body, u.line ≤ m := by
  simp only [lastTopLine, foldl_max_le_iff, topLines, List.mem_filterMap, line_le_iff]
  grind

theorem endLineOf_le_iff {ts : List Tree} {m : Nat} :
    endLineOf ts ≤ m ↔ ∀ u ∈ ts, (if isFlow u.kind then endLine u else u.line) ≤ m := by
  induction ts with
  | nil => simp [endLineOf]
  | cons t rest ih => rw [endLineOf, Nat.max_le, ih, List.forall_mem_cons]

theorem endLineIn_eq (parts : List (String × Tree)) : endLineIn parts = endLineOf (partOf "body" parts).items := by
  induction parts with
  | nil => simp [endLineIn, partOf, items, endLineOf]
  | cons part rest ih =>
    obtain ⟨k, t⟩ := part
    unfold endLineIn partOf
    split
    · cases t <;> simp [endLineBody, items, endLineOf]
    · exact ih

theorem endLine_le_iff {s : Tree} (hs : isFlow s.kind = true) {m : Nat} : s.endLine ≤ m ↔
    s.line ≤ m ∧ (∀ u ∈ s.partItems "body", (if isFlow u.kind then endLine u else u.line) ≤ m) ∧
      (∀ u ∈ s.partItems "orelse", u.line ≤ m) ∧ ∀ u ∈ s.partItems "finalbody", u.line ≤ m := by
  cases s with
  | node k p parts =>
    rw [endLine, Nat.max_le, Nat.max_le, Nat.max_le, endLineIn_eq, endLineOf_le_iff, lastTopLine_le_iff, lastTopLine_le_iff]
    rfl
  | _ => simp [kind, isFlow] at hs

/-- The estimate is the least line that is none too small for the statements it takes in. -/
theorem endLine_le_iff_counted {s : Tree} (hs : isFlow s.kind = true) {m : Nat} :
    s.endLine ≤ m ↔ s.line ≤ m ∧ ∀ u, Counted s u → u.line ≤ m := by
  constructor
  · intro h
    refine ⟨((endLine_le_iff hs).mp h).1, fun u hu => ?_⟩
    induction hu with
    | body hu =>
      have hle := ((endLine_le_iff hs).mp h).2.1 _ hu
      split at hle
      · next hflow => exact ((endLine_le_iff hflow).mp hle).1
      · exact hle
    | orelse hu => exact ((endLine_le_iff hs).mp h).2.2.1 _ hu
    | final hu => exact ((endLine_le_iff hs).mp h).2.2.2 _ hu
    | nested hb hflow _ ih =>
      have hle := ((endLine_le_iff hs).mp h).2.1 _ hb
      rw [if_pos hflow] at hle
      exact ih hflow hle
  · rintro ⟨hline, hcounted⟩
    refine (endLine_le_iff hs).mpr ⟨hline, fun u hu => ?_, fun u hu => hcounted u (.orelse hu), fun u hu => hcounted u (.final hu)⟩
    split
    · next hflow => exact (endLine_le_iff_counted hflow).mpr ⟨hcounted u (.body hu), fun v hv => hcounted v (.nested hu hflow hv)⟩
    · exact hcounted u (.body hu)
termination_by sizeOf s
decreasing_by exact sizeOf_lt_of_mem_partItems hu

/-- A line is not behind the estimate exactly if it is not behind the structure's own line or that of a statement taken in. -/
theorem le_endLine_iff {s : Tree} (hs : isFlow s.kind = true) {n : Nat} :
    n ≤ s.endLine ↔ n ≤ s.line ∨ ∃ u, Counted s u ∧ n ≤ u.line := by
  cases n with
  | zero => simp
  | succ n =>
    simp only [Nat.add_one_le_iff]
    rw [← Nat.not_le, endLine_le_iff_counted hs]
    simp only [not_and_or, not_forall, Nat.not_le, exists_prop]

end Tree

def FlowHead.otherLines : FlowHead → List Nat
  | .tryBlock handlers finals => handlers ++ finals
  | _ => []

def FlowStructure.lines (r : FlowStructure) : List Nat := r.bodyLines ++ r.elseLines ++ r.head.otherLines

namespace Tree
open Relation

structure Recorded (s : Tree) (r : FlowStructure) : Prop where
  flow : isFlow s.kind = true
  startLine : r.startLine = s.line
  endLine : r.endLine = s.endLine
  bodyLines : r.bodyLines = bodyLines (s.partItems "body")
  elseLines : r.elseLines = Tree.bodyLines (s.partItems "orelse")
  otherLines : r.head.otherLines = if s.kind = "Try" then
    ((s.partItems "handlers").flatMap fun h => Tree.bodyLines (h.partItems "body")) ++ Tree.bodyLines (s.partItems "finalbody")
    else []

theorem recorded_of_flowStructure? {s : Tree} {r : FlowStructure} (h : s.flowStructure? = some r) : Recorded s r := by
  cases hflow : isFlow s.kind with
  | false => rw [flowStructure?_of_not_flow s hflow] at h; cases h
  | true =>
    have hkind : s.kind = "If" ∨ s.kind = "For" ∨ s.kind = "While" ∨ s.kind = "Try" := by simpa [isFlow] using hflow
    unfold flowStructure? at h
    rcases hkind with hk | hk | hk | hk <;> simp only [hk, Option.some.injEq] at h <;> subst h
    all_goals exact ⟨hflow, rfl, rfl, rfl, rfl, by simp [FlowHead.otherLines, hk]⟩

theorem Recorded.mem_lines {s : Tree} {r : FlowStructure} (h : Recorded s r) {n : Nat} :
    n ∈ r.lines ↔ ∃ u, TransGen InBranch s u ∧ u.line? = some n := by
  have hinside : (∃ u, TransGen InBranch s u ∧ u.line? = some n) ↔
      ∃ b, InBranch s b ∧ ∃ u, ReflTransGen InBranch b u ∧ u.line? = some n := by
    simp only [TransGen.head'_iff]
    grind
  rw [hinside, exists_inBranch_iff, FlowStructure.lines, h.bodyLines, h.elseLines, h.otherLines]
  simp only [List.mem_append, mem_bodyLines, List.mem_ite_nil_right, List.mem_flatMap, h.flow, true_and]

/-- The end that is recorded of a control structure is never before its start. It is the greatest line of the structure's own
and those of the statements that the estimate takes in, and it bounds all recorded lines exactly if no statement that is
passed over stands behind all of these. -/
theorem end_bounds_lines_iff (t : Tree) : ∀ s ∈ t.preorder, ∀ r, s.flowStructure? = some r →
    r.startLine ≤ r.endLine ∧
    (∀ n, n ≤ r.endLine ↔ n ≤ s.line ∨ ∃ v, Counted s v ∧ n ≤ v.line) ∧
    ((∀ n ∈ r.lines, n ≤ r.endLine) ↔
      ∀ u, PassedOver s u → u.line ≤ s.line ∨ ∃ v, Counted s v ∧ u.line ≤ v.line) := by
  intro s _ r hr
  have h := recorded_of_flowStructure? hr
  have hend : ∀ n, n ≤ s.endLine ↔ n ≤ s.line ∨ ∃ v, Counted s v ∧ n ≤ v.line := fun n => le_endLine_iff h.flow
  rw [h.startLine, h.endLine]
  refine ⟨(hend _).mpr (.inl (Nat.le_refl _)), hend, ?_⟩
  constructor
  · intro hbound u hu
    rw [← hend, line_le_iff]
    intro n hn
    exact hbound n (h.mem_lines.mpr ⟨u, hu.inside, hn⟩)
  · intro hpassed n hn
    obtain ⟨u, hu, hline⟩ := h.mem_lines.mp hn
    have hle : u.line ≤ s.endLine := by
      rw [hend]
      rcases counted_or_passedOver hu with hu | hu
      · exact .inr ⟨u, hu, Nat.le_refl _⟩
      · exact hpassed u hu
    exact line_le_iff.mp hle n hline

/-- A block with a handler on lines 3 and 4, and a last branch on lines 5 and 6. -/
def guarded : Tree :=
  .node "Try" (some ⟨1, 0⟩) [("body", .list [exprAt 2 (nameAt 2 "a")]),
    ("handlers", .list [.node "ExceptHandler" (some ⟨3, 0⟩)
      [("type", nameAt 3 "E"), ("name", .absent), ("body", .list [exprAt 4 (nameAt 4 "b")])]]),
    ("orelse", .list []), ("finalbody", .list [exprAt 6 (nameAt 6 "c")])]

/-- The handler of `guarded` is passed over, but its last branch stands behind it. -/
theorem end_bounds_lines_of_guarded :
    guarded.flowStructure? = some ⟨.tryBlock [4] [6], 1, 6, [2], []⟩ ∧ ∀ n ∈ [2, 4, 6], n ≤ 6 := by
  have hplain : ∀ line x u, ¬ TransGen InBranch (exprAt line (nameAt line x)) u := by
    intro line x u hu
    obtain ⟨b, hb, -⟩ := TransGen.head'_iff.mp hu
    exact Bool.false_ne_true hb.isFlow
  refine ⟨rfl, ((end_bounds_lines_iff (moduleOf [guarded]) guarded ?_ _ rfl).2.2).mpr ?_⟩
  · simp [preorder_moduleOf, preorderItems, guarded, preorder]
  · intro u hu
    refine .inr ⟨exprAt 6 (nameAt 6 "c"), .final (.head _), ?_⟩
    cases hu with
    | handler _ hh hb hu =>
      obtain rfl := List.mem_singleton.mp hh
      obtain rfl := List.mem_singleton.mp hb
      rcases reflTransGen_iff_eq_or_transGen.mp hu with rfl | hu
      · decide
      · exact absurd hu (hplain 4 "b" u)
    | orelse _ hb _ => exact absurd hb List.not_mem_nil
    | final _ hb hu =>
      obtain rfl := List.mem_singleton.mp hb
      exact absurd hu (hplain 6 "c" u)
    | nested _ hb hu =>
      obtain rfl := List.mem_singleton.mp hb
      exact absurd hu.inside (hplain 2 "a" u)

/-- A choice on line 1 with a second condition on line 3. -/
def choice : Tree :=
  .node "If" (some ⟨1, 0⟩) [("test", nameAt 1 "a"), ("body", .list [exprAt 2 (nameAt 2 "b")]),
    ("orelse", .list [.node "If" (some ⟨3, 0⟩)
      [("test", nameAt 3 "c"), ("body", .list [exprAt 4 (nameAt 4 "d")]), ("orelse", .list [])]])]

theorem gist_nameAt (line : Nat) (x : String) : (nameAt line x).gist = x := by
  simp [nameAt, gist, partOf, text]

/-- The end of `choice` is the line of its second condition, and the body of that stands behind it. -/
theorem end_before_second_body :
    choice.flowStructure? = some ⟨.ifThen "a", 1, 3, [2], [3, 4]⟩ ∧
    ¬ ∀ t : Tree, ∀ r ∈ t.flowStructures, r.startLine ≤ r.endLine ∧ ∀ n ∈ r.lines, n ≤ r.endLine := by
  have hrecorded : choice.flowStructure? = some ⟨.ifThen "a", 1, 3, [2], [3, 4]⟩ := by
    rw [← gist_nameAt 1 "a"]
    rfl
  refine ⟨hrecorded, fun h => ?_⟩
  have hmem : choice ∈ (moduleOf [choice]).preorder := by
    simp [preorder_moduleOf, preorderItems, choice, preorder]
  have hbound := (h (moduleOf [choice]) _ (List.mem_filterMap.mpr ⟨choice, hmem, hrecorded⟩)).2 4 (by decide)
  exact absurd hbound (by decide)

end Tree
end ThreatScan
