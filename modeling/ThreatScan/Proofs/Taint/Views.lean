import ThreatScan.Taint.Flow
/-!
What is read off a node: the nodes inside it, and how it is written.

The nodes of a part, and those of the items of a part, are met in their order among the nodes of the whole
(`preorder_part_sublist`, `preorderItems_partItems_sublist`). A variable is written as its name; an input is written in one
of three ways (`outline_of_isInput`). Small scripts are put together from `nameAt` and the like.
-/
namespace ThreatScan.Tree

def moduleOf (body : List Tree) : Tree := .node "Module" none [("body", .list body), ("type_ignores", .list [])]

section Statements
variable (line : Nat)

def nameAt (x : String) : Tree := .node "Name" (some ⟨line, 0⟩) [("id", .name x), ("ctx", .node "Load" none [])]

def attributeAt (x a : String) : Tree :=
  .node "Attribute" (some ⟨line, 0⟩) [("value", nameAt line x), ("attr", .name a), ("ctx", .node "Load" none [])]

def callAt (func : Tree) (args : List Tree) : Tree :=
  .node "Call" (some ⟨line, 0⟩) [("func", func), ("args", .list args), ("keywords", .list [])]

def assignAt (target value : Tree) : Tree :=
  .node "Assign" (some ⟨line, 0⟩) [("targets", .list [target]), ("value", value), ("type_comment", .absent)]

def exprAt (value : Tree) : Tree := .node "Expr" (some ⟨line, 0⟩) [("value", value)]

end Statements

/-! ## Nodes inside a node -/

theorem preorder_moduleOf (body : List Tree) : (moduleOf body).preorder = moduleOf body :: preorderItems body := by
  simp [moduleOf, preorder, preorderParts, preorderItems]

theorem preorderItems_sublist {ss ts : List Tree} (h : ss.Sublist ts) : (preorderItems ss).Sublist (preorderItems ts) := by
  induction h with
  | slnil => exact List.Sublist.slnil
  | cons t _ ih => exact ih.trans (List.sublist_append_right (preorder t) _)
  | cons_cons t _ ih => exact (List.Sublist.refl (preorder t)).append ih

theorem preorder_part_sublist (t : Tree) (key : String) : (t.part key).preorder.Sublist t.preorder := by
  cases t with
  | node k p parts =>
    have hparts : (partOf key parts).preorder.Sublist (preorderParts parts) := by
      induction parts with
      | nil => simp [partOf, preorder]
      | cons e rest ih =>
        obtain ⟨name, u⟩ := e
        rw [partOf, preorderParts]
        split
        · exact List.sublist_append_left _ _
        · exact ih.trans (List.sublist_append_right _ _)
    rw [preorder]
    exact hparts.trans (List.sublist_cons_self _ _)
  | _ => simp [part, preorder]

theorem preorderItems_partItems_sublist (t : Tree) (key : String) :
    (preorderItems (t.partItems key)).Sublist t.preorder := by
  refine List.Sublist.trans ?_ (preorder_part_sublist t key)
  unfold partItems
  cases t.part key with
  | list ts => exact List.Sublist.refl _
  | _ => simp [items, preorderItems]

theorem mem_preorder_of_is {t : Tree} {k : String} (hk : t.is k = true) (hne : k ≠ "") : t ∈ t.preorder := by
  cases t with
  | node k p parts => exact mem_preorder_self k p parts
  | _ => exact absurd (beq_iff_eq.mp hk).symm hne

mutual

theorem preorder_subset_of_mem {n : Tree} : ∀ {t : Tree}, n ∈ t.preorder → n.preorder ⊆ t.preorder
  | .node k p parts, h => by
    rw [preorder] at h
    rcases List.mem_cons.mp h with rfl | h
    · exact List.Subset.refl _
    · rw [preorder]
      exact List.Subset.trans (preorderParts_subset_of_mem h) (List.subset_cons_self _ _)
  | .list ts, h => preorderItems_subset_of_mem h
  | .name _, h => absurd h List.not_mem_nil
  | .number _, h => absurd h List.not_mem_nil
  | .constant _, h => absurd h List.not_mem_nil
  | .absent, h => absurd h List.not_mem_nil

theorem preorderItems_subset_of_mem {n : Tree} : ∀ {ts : List Tree}, n ∈ preorderItems ts →
    n.preorder ⊆ preorderItems ts
  | [], h => absurd h List.not_mem_nil
  | t :: ts, h => by
    rw [preorderItems] at h ⊢
    rcases List.mem_append.mp h with h | h
    · exact List.Subset.trans (preorder_subset_of_mem h) (List.subset_append_left _ _)
    · exact List.Subset.trans (preorderItems_subset_of_mem h) (List.subset_append_right _ _)

theorem preorderParts_subset_of_mem {n : Tree} : ∀ {parts : List (String × Tree)}, n ∈ preorderParts parts →
    n.preorder ⊆ preorderParts parts
  | [], h => absurd h List.not_mem_nil
  | (_, t) :: rest, h => by
    rw [preorderParts] at h ⊢
    rcases List.mem_append.mp h with h | h
    · exact List.Subset.trans (preorder_subset_of_mem h) (List.subset_append_left _ _)
    · exact List.Subset.trans (preorderParts_subset_of_mem h) (List.subset_append_right _ _)

end

/-! ## How inputs and variables are written -/

theorem outline_of_variableName? {t : Tree} {v : String} (h : t.variableName? = some v) : t.outline = v := by
  cases t with
  | node k p parts =>
    by_cases hn : k = "Name"
    · subst hn
      simpa [variableName?, asName?, is, kind, partText, part, outline] using h
    · by_cases ha : k = "Attribute"
      · subst ha
        have hd : (Tree.node "Attribute" p parts).asName? = none := by simp [asName?, is, kind]
        rw [variableName?, hd] at h
        obtain ⟨⟨n, a⟩, hna, rfl⟩ := Option.map_eq_some_iff.mp h
        simp [outline, hna]
      · simp [variableName?, asName?, asDotted?, asAttribute?, is, kind, hn, ha] at h
  | _ => simp [variableName?, asName?, asDotted?, asAttribute?, is, kind] at h

theorem outline_of_subscript {t : Tree} {n a : String} (hs : t.is "Subscript" = true)
    (hv : (t.part "value").asDotted? = some (n, a)) : t.outline = n ++ "." ++ a ++ "[...]" := by
  cases t with
  | node k p parts =>
    have hk : k = "Subscript" := by simpa [is, kind] using hs
    subst hk
    have hv : (partOf "value" parts).asDotted? = some (n, a) := hv
    simp [outline, hv]
  | _ => simp [is, kind] at hs

theorem outline_of_call {t : Tree} {n : String} (hc : t.is "Call" = true) (hf : (t.part "func").asName? = some n) :
    t.outline = n ++ "(...)" := by
  cases t with
  | node k p parts =>
    have hk : k = "Call" := by simpa [is, kind] using hc
    subst hk
    have hf : (partOf "func" parts).asName? = some n := hf
    simp [outline, hf]
  | _ => simp [is, kind] at hc

/-- An input is an element of the command line arguments, or a line that is read. -/
theorem isInput_iff {t : Tree} : t.isInput = true ↔
    (t.is "Subscript" = true ∧ (t.part "value").asDotted? = some ("sys", "argv")) ∨
      t.is "Call" = true ∧ ∃ n ∈ ["input", "raw_input"], (t.part "func").asName? = some n := by
  unfold isInput
  by_cases hs : t.is "Subscript" = true
  · have hc : t.is "Call" = false := by
      have hk : t.kind = "Subscript" := beq_iff_eq.mp hs
      simp [is, hk]
    simp [hs, hc]
  · by_cases hc : t.is "Call" = true
    · rw [if_neg hs, if_pos hc]
      cases (t.part "func").asName? <;> simp [hs, hc]
    · simp [hs, hc]

theorem outline_of_isInput {t : Tree} (h : t.isInput = true) :
    t.outline ∈ ["sys.argv[...]", "input(...)", "raw_input(...)"] := by
  rcases isInput_iff.mp h with ⟨hs, hv⟩ | ⟨hc, n, hn, hf⟩
  · rw [outline_of_subscript hs hv]
    decide
  · rw [outline_of_call hc hf]
    simp only [List.mem_cons, List.not_mem_nil, or_false] at hn
    rcases hn with rfl | rfl <;> decide

end ThreatScan.Tree
