import ThreatScan.Proofs.Checked
import ThreatScan.Syntax.ControlFlow
/-!
What is told of one tree agrees.

The instructions, the control structures and the symbols of a module are three listings of one tree, each made of records.
What is proved: record by record, the control structures among the instructions are those of the second listing, and the
imports and classes among them are those of the third (`listings_agree`). Of each branch an instruction gives the lines of
the statements, a control structure also those of the structures nested in them.
-/
namespace ThreatScan

namespace Value

def typeText (v : Value) : String := ((v.field? "type").bind text?).getD ""

def linesAt (key : String) (v : Value) : List Value :=
  match v.field? key with
  | some (.list lines) => lines
  | _ => []

end Value

/-- The names of the control structures, among the instructions and among the structures. -/
def structureTypes : List (String × String) := [("IF", "if"), ("FOR", "for"), ("WHILE", "while"), ("TRY", "try")]

/-- An instruction and a control structure tell of one statement. -/
structure SameStatement (i s : Value) : Prop where
  kind : (i.typeText, s.typeText) ∈ structureTypes
  line : ∃ n : Nat, i.field? "line" = some (.int n) ∧ s.field? "start_line" = some (.int n)
  body : i.linesAt "body_lines" ⊆ s.linesAt "body_lines"
  orelse : i.linesAt "else_lines" ⊆ s.linesAt "else_lines"
  handlers : i.linesAt "except_lines" ⊆ s.linesAt "except_lines"
  final : i.linesAt "finally_lines" ⊆ s.linesAt "finally_lines"

/-- Two records agree on the fields of these names. -/
def SameFields (keys : List String) (v w : Value) : Prop := ∀ key ∈ keys, v.field? key = w.field? key

/-! ## Lines of branches -/

theorem mem_insertLine {x n : Nat} {lines : List Nat} : x ∈ insertLine n lines ↔ x = n ∨ x ∈ lines := by
  induction lines with
  | nil => simp [insertLine]
  | cons m rest ih =>
    unfold insertLine
    split
    · simp
    · split
      · next h => simp [h]
      · rw [List.mem_cons, ih, List.mem_cons]
        exact or_left_comm

theorem mem_sortedLines {x : Nat} {lines : List Nat} : x ∈ sortedLines lines ↔ x ∈ lines := by
  induction lines with
  | nil => rfl
  | cons n rest ih =>
    have ih : x ∈ rest.foldr insertLine [] ↔ x ∈ rest := ih
    rw [sortedLines, List.foldr_cons, mem_insertLine, ih, List.mem_cons]

namespace Tree

theorem topLines_subset_flowLinesOf (body : List Tree) : topLines body ⊆ flowLinesOf body := by
  induction body with
  | nil => exact List.nil_subset _
  | cons t rest ih =>
    have hrest : topLines rest ⊆ flowLines t ++ flowLinesOf rest :=
      List.Subset.trans ih (List.subset_append_right _ _)
    unfold topLines flowLinesOf
    rw [List.filterMap_cons]
    cases hl : t.line? with
    | none => exact hrest
    | some n =>
      -- a statement is itself the first line of what is collected under it
      refine List.cons_subset.mpr ⟨List.mem_append_left _ ?_, hrest⟩
      cases t with
      | node k p parts =>
        have hp : p.map (·.line) = some n := hl
        rw [flowLines, hp]
        exact List.mem_cons_self
      | _ => cases hl

theorem topLines_subset_bodyLines (body : List Tree) : topLines body ⊆ bodyLines body := by
  intro n hn
  exact mem_sortedLines.mpr (topLines_subset_flowLinesOf body hn)

theorem handlers_subset (handlers : List Tree) : (handlers.flatMap fun h => topLines (h.partItems "body")) ⊆
    handlers.flatMap fun h => bodyLines (h.partItems "body") := by
  intro n hn
  obtain ⟨h, hh, hn⟩ := List.mem_flatMap.mp hn
  exact List.mem_flatMap.mpr ⟨h, hh, topLines_subset_bodyLines _ hn⟩

end Tree

/-! ## Types of instructions -/

def Instruction.label : Instruction → String
  | .call .. => "CALL"
  | .assign .. => "ASSIGN"
  | .importing .. => "IMPORT"
  | .ifThen .. => "IF"
  | .forEach .. => "FOR"
  | .whileTrue .. => "WHILE"
  | .tryBlock .. => "TRY"
  | .functionDef .. => "FUNCTION_DEF"
  | .classDef .. => "CLASS_DEF"

theorem Instruction.typeText_toValue (i : Instruction) : i.toValue.typeText = i.label := by
  cases i with
  | importing module name boundName place => cases name <;> rfl
  | _ => rfl

/-- The kinds of nodes that make such an instruction. -/
def Instruction.nodeKinds : Instruction → List String
  | .call .. => ["Call"]
  | .assign .. => ["Assign"]
  | .importing .. => ["Import", "ImportFrom"]
  | .ifThen .. => ["If"]
  | .forEach .. => ["For"]
  | .whileTrue .. => ["While"]
  | .tryBlock .. => ["Try"]
  | .functionDef .. => ["FunctionDef"]
  | .classDef .. => ["ClassDef"]

theorem Tree.kind_of_mem_instructions {n : Tree} {i : Instruction} (h : i ∈ n.instructions) : n.kind ∈ i.nodeKinds := by
  unfold instructions at h
  split at h
  case h_3 hk =>
    obtain ⟨a, -, rfl⟩ := List.mem_map.mp h
    exact hk ▸ List.mem_cons_self
  case h_4 hk =>
    obtain ⟨a, -, rfl⟩ := List.mem_map.mp h
    exact hk ▸ List.mem_cons_of_mem _ List.mem_cons_self
  case h_11 => exact absurd h List.not_mem_nil
  -- every other kind makes one instruction
  all_goals
    next hk =>
    rw [List.mem_singleton.mp h, hk]
    exact List.mem_cons_self

/-! ## Control structures -/

def Instruction.isStructure : Instruction → Bool
  | .ifThen .. | .forEach .. | .whileTrue .. | .tryBlock .. => true
  | _ => false

/-- The instruction opens the control structure: they are of one kind and on one line, and no line is lost. -/
inductive Opens : Instruction → FlowStructure → Prop
  | ifThen {c c' : String} {b b' e e' : List Nat} {p : Position} {last : Nat} (hb : b ⊆ b') (he : e ⊆ e') :
      Opens (.ifThen c b e p) ⟨.ifThen c', p.line, last, b', e'⟩
  | forEach {x x' y y' : String} {b b' e e' : List Nat} {p : Position} {last : Nat} (hb : b ⊆ b') (he : e ⊆ e') :
      Opens (.forEach x y b e p) ⟨.forEach x' y', p.line, last, b', e'⟩
  | whileTrue {c c' : String} {b b' e e' : List Nat} {p : Position} {last : Nat} (hb : b ⊆ b') (he : e ⊆ e') :
      Opens (.whileTrue c b e p) ⟨.whileTrue c', p.line, last, b', e'⟩
  | tryBlock {b b' h h' e e' f f' : List Nat} {p : Position} {last : Nat} (hb : b ⊆ b') (hh : h ⊆ h') (he : e ⊆ e')
      (hf : f ⊆ f') : Opens (.tryBlock b h e f p) ⟨.tryBlock h' f', p.line, last, b', e'⟩

theorem Instruction.isStructure_eq (i : Instruction) :
    i.isStructure = (structureTypes.map Prod.fst).contains i.label := by
  cases i <;> rfl

theorem Opens.sameStatement {i : Instruction} {s : FlowStructure} (h : Opens i s) :
    SameStatement i.toValue s.toValue := by
  have hmap : ∀ {a b : List Nat}, a ⊆ b → a.map (fun (n : Nat) => Value.int n) ⊆ b.map fun (n : Nat) => Value.int n :=
    fun h => List.map_subset _ h
  have hnone : ∀ lines : List Value, [] ⊆ lines := List.nil_subset
  cases h with
  | ifThen hb he => exact ⟨.head _, ⟨_, rfl, rfl⟩, hmap hb, hmap he, hnone _, hnone _⟩
  | forEach hb he => exact ⟨.tail _ (.head _), ⟨_, rfl, rfl⟩, hmap hb, hmap he, hnone _, hnone _⟩
  | whileTrue hb he => exact ⟨.tail _ (.tail _ (.head _)), ⟨_, rfl, rfl⟩, hmap hb, hmap he, hnone _, hnone _⟩
  | tryBlock hb hh he hf =>
    exact ⟨.tail _ (.tail _ (.tail _ (.head _))), ⟨_, rfl, rfl⟩, hmap hb, hmap he, hmap hh, hmap hf⟩

namespace Tree
variable (n : Tree)

theorem instructions_filter_of_not_flow (h : isFlow n.kind = false) : n.instructions.filter (·.isStructure) = [] := by
  refine List.filter_eq_nil_iff.mpr fun i hi hs => ?_
  have hkind := kind_of_mem_instructions hi
  cases i with
  | ifThen | forEach | whileTrue | tryBlock =>
    rw [List.mem_singleton.mp hkind] at h
    cases h
  | _ => cases hs

theorem flowStructure?_of_not_flow (h : isFlow n.kind = false) : n.flowStructure? = none := by
  unfold flowStructure?
  split <;> simp_all [isFlow]

/-- The instructions of one node open the control structure that the node is. -/
theorem opens_of_node : List.Forall₂ Opens (n.instructions.filter (·.isStructure)) n.flowStructure?.toList := by
  have htop := topLines_subset_bodyLines
  cases hf : isFlow n.kind with
  | false =>
    rw [instructions_filter_of_not_flow n hf, flowStructure?_of_not_flow n hf]
    exact .nil
  | true =>
    -- the four kinds that make an instruction with branches are those that make a structure
    have hkind : n.kind = "If" ∨ n.kind = "For" ∨ n.kind = "While" ∨ n.kind = "Try" := by simpa [isFlow] using hf
    unfold instructions flowStructure?
    rcases hkind with hk | hk | hk | hk <;> simp only [hk]
    · exact .cons (.ifThen (htop _) (htop _)) .nil
    · exact .cons (.forEach (htop _) (htop _)) .nil
    · exact .cons (.whileTrue (htop _) (htop _)) .nil
    · exact .cons (.tryBlock (htop _) (handlers_subset _) (htop _) (htop _)) .nil

theorem opens_listing (t : Tree) : List.Forall₂ Opens (t.listing.filter (·.isStructure)) t.flowStructures := by
  unfold listing flowStructures
  rw [List.filter_flatMap, List.filterMap_eq_flatMap_toList]
  refine List.rel_flatMap (R := Eq) (List.forall₂_refl t.preorder) ?_
  rintro n _ rfl
  exact opens_of_node n

end Tree

/-! ## Imports and classes -/

def Instruction.importSymbol? : Instruction → Option ImportSymbol
  | .importing module name boundName place => some ⟨module, name, boundName, place.line⟩
  | _ => none

def Instruction.classSymbol? : Instruction → Option ClassSymbol
  | .classDef name place => some ⟨name, place.line⟩
  | _ => none

theorem Tree.importSymbols_of_node (n : Tree) : n.instructions.filterMap (·.importSymbol?) = n.importSymbols := by
  unfold importSymbols
  split
  · next hk =>
    have hmade : n.instructions = (n.partItems "names").map fun a =>
        .importing (a.partText "name") none a.aliasText n.place := by
      simp only [instructions, beq_iff_eq.mp hk]
    rw [hmade, List.filterMap_map]
    exact congrFun List.filterMap_eq_map _
  · next hk =>
    split
    · next hk' =>
      have hmade : n.instructions = (n.partItems "names").map fun a =>
          .importing (n.partText "module") (some (a.partText "name")) a.aliasText n.place := by
        simp only [instructions, beq_iff_eq.mp hk']
      rw [hmade, List.filterMap_map]
      exact congrFun List.filterMap_eq_map _
    · next hk' =>
      refine List.filterMap_eq_nil_iff.mpr fun i hi => ?_
      have hkind := kind_of_mem_instructions hi
      cases i with
      | importing =>
        rcases List.mem_pair.mp hkind with h | h
        · exact absurd (beq_iff_eq.mpr h) hk
        · exact absurd (beq_iff_eq.mpr h) hk'
      | _ => rfl

theorem Tree.classSymbols_of_node (n : Tree) : n.instructions.filterMap (·.classSymbol?) = n.classSymbols := by
  unfold classSymbols
  split
  · next hk =>
    have hmade : n.instructions = [.classDef (n.partText "name") n.place] := by simp only [instructions, beq_iff_eq.mp hk]
    rw [hmade]
    rfl
  · next hk =>
    refine List.filterMap_eq_nil_iff.mpr fun i hi => ?_
    have hkind := kind_of_mem_instructions hi
    cases i with
    | classDef => exact absurd (beq_iff_eq.mpr (List.mem_singleton.mp hkind)) hk
    | _ => rfl

theorem Tree.imports_of_listing (t : Tree) : t.listing.filterMap (·.importSymbol?) = t.symbols.imports := by
  unfold listing symbols
  rw [List.filterMap_flatMap]
  exact List.flatMap_congr fun n _ => importSymbols_of_node n

theorem Tree.classes_of_listing (t : Tree) : t.listing.filterMap (·.classSymbol?) = t.symbols.classes := by
  unfold listing symbols
  rw [List.filterMap_flatMap]
  exact List.flatMap_congr fun n _ => classSymbols_of_node n

theorem forall₂_imports (is : List Instruction) : List.Forall₂
    (fun i s => SameFields ["module", "name", "alias", "line"] i.toValue (ImportSymbol.toValue s))
    (is.filter (·.label = "IMPORT")) (is.filterMap (·.importSymbol?)) := by
  refine forall₂_filter_filterMap ?_ ?_
  · intro i _ hi
    cases i with
    | importing module name boundName place =>
      refine ⟨_, rfl, ?_⟩
      simp only [SameFields, List.forall_mem_cons]
      cases name with
      | none => exact ⟨rfl, rfl, rfl, rfl, List.forall_mem_nil _⟩
      | some name => exact ⟨rfl, rfl, rfl, rfl, List.forall_mem_nil _⟩
    | _ => simp [Instruction.label] at hi
  · intro i _ hi
    cases i with
    | importing module name boundName place => exact absurd rfl hi
    | _ => rfl

theorem forall₂_classes (is : List Instruction) : List.Forall₂
    (fun i s => SameFields ["name", "line"] i.toValue (ClassSymbol.toValue s))
    (is.filter (·.label = "CLASS_DEF")) (is.filterMap (·.classSymbol?)) := by
  refine forall₂_filter_filterMap ?_ ?_
  · intro i _ hi
    cases i with
    | classDef name place =>
      refine ⟨_, rfl, ?_⟩
      simp only [SameFields, List.forall_mem_cons]
      exact ⟨rfl, rfl, List.forall_mem_nil _⟩
    | _ => simp [Instruction.label] at hi
  · intro i _ hi
    cases i with
    | classDef name place => exact absurd rfl hi
    | _ => rfl

end ThreatScan
