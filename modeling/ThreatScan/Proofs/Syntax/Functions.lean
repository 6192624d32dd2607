import Mathlib.Data.List.Flatten
import Mathlib.Data.List.Perm.Basic
import ThreatScan.Proofs.Taint.Views
import ThreatScan.Syntax.Symbols
/-!
The functions of a symbol table.

A class enters the functions of its body, and each of them is entered again when it is met as a node. To say what that
comes to, the nodes of a tree are listed with the class that each is a direct member of (`owned`). What is proved:

* the list has each node once (`map_snd_owned`), and its functions with a class are the functions in the bodies of the
  classes, none lost and none twice (`filter_isMethod_owned`);
* the table has one entry for each function of that list, and for each method a second entry in which it is no method. So
  each function is entered once exactly if no class has a function in its body (`functions_entered_once_iff`).
-/
namespace ThreatScan.Tree

def className? (kind : String) (parts : List (String × Tree)) : Option String :=
  if kind = "ClassDef" then some (partOf "name" parts).text else none

mutual

/-- Every node of a tree with the class that it is a direct member of, in the order in which the nodes are met. The owner is
the class that the tree itself is a member of. -/
def owned (owner : Option String) : Tree → List (Option String × Tree)
  | .node k p parts => (owner, .node k p parts) :: ownedParts (className? k parts) parts
  | .list ts => ownedItems none ts
  | _ => []

def ownedItems (owner : Option String) : List Tree → List (Option String × Tree)
  | [] => []
  | t :: ts => owned owner t ++ ownedItems owner ts

/-- The members of a class are the items of its body. -/
def ownedParts (owner : Option String) : List (String × Tree) → List (Option String × Tree)
  | [] => []
  | (key, t) :: rest =>
    ownedPart (if key = "body" then owner else none) t ++ ownedParts (if key = "body" then none else owner) rest

def ownedPart (owner : Option String) : Tree → List (Option String × Tree)
  | .node k p parts => (none, .node k p parts) :: ownedParts (className? k parts) parts
  | .list ts => ownedItems owner ts
  | _ => []

end

/-- The functions of a tree, each with the class that it is a direct member of. -/
def definitions (t : Tree) : List (Option String × Tree) := (owned none t).filter (·.2.isFunction)

def entryOf (d : Option String × Tree) : FunctionSymbol := ⟨d.2.partText "name", d.2.line, d.1⟩

def plainEntryOf (d : Option String × Tree) : FunctionSymbol := entryOf (none, d.2)

/-! ## Each node once -/

mutual

theorem map_snd_owned (owner : Option String) : ∀ t : Tree, (owned owner t).map Prod.snd = t.preorder
  | .node k p parts => by rw [owned, preorder, List.map_cons, map_snd_ownedParts _ parts]
  | .list ts => by rw [owned, preorder, map_snd_ownedItems none ts]
  | .name _ | .number _ | .constant _ | .absent => rfl

theorem map_snd_ownedItems (owner : Option String) : ∀ ts : List Tree, (ownedItems owner ts).map Prod.snd = preorderItems ts
  | [] => rfl
  | t :: ts => by
    rw [ownedItems, preorderItems, List.map_append, map_snd_owned owner t, map_snd_ownedItems owner ts]

theorem map_snd_ownedParts (owner : Option String) : ∀ parts : List (String × Tree),
    (ownedParts owner parts).map Prod.snd = preorderParts parts
  | [] => rfl
  | (key, t) :: rest => by
    rw [ownedParts, preorderParts, List.map_append, map_snd_ownedPart _ t, map_snd_ownedParts _ rest]

theorem map_snd_ownedPart (owner : Option String) : ∀ t : Tree, (ownedPart owner t).map Prod.snd = t.preorder
  | .node k p parts => by rw [ownedPart, preorder, List.map_cons, map_snd_ownedParts _ parts]
  | .list ts => by rw [ownedPart, preorder, map_snd_ownedItems owner ts]
  | .name _ | .number _ | .constant _ | .absent => rfl

end

/-! ## Functions in the bodies of classes -/

def isMethod (d : Option String × Tree) : Bool := d.1.isSome && d.2.isFunction

def methodsIn (n : Tree) : List (Option String × Tree) :=
  if n.is "ClassDef" then ((n.partItems "body").filter isFunction).map (some (n.partText "name"), ·) else []

theorem filter_isMethod_none (ts : List Tree) : (ts.map (none, ·)).filter isMethod = [] := by
  simp [List.filter_eq_nil_iff, isMethod]

theorem methodsIn_node (k : String) (p : Option Position) (parts : List (String × Tree)) :
    methodsIn (.node k p parts) = ((partOf "body" parts).items.map (className? k parts, ·)).filter isMethod := by
  unfold methodsIn className?
  by_cases hk : k = "ClassDef"
  · simp only [is, kind, hk, beq_self_eq_true, if_true, List.filter_map]
    rfl
  · simp only [is, kind, hk, beq_iff_eq, if_false, filter_isMethod_none]

theorem filter_isMethod_singleton {t : Tree} (h : t.isFunction = false) (owner : Option String) :
    [(owner, t)].filter isMethod = [] := by
  simp [isMethod, h]

theorem append_interchange_perm {α : Type} (a b c d : List α) : ((a ++ b) ++ (c ++ d)).Perm ((a ++ c) ++ (b ++ d)) := by
  rw [List.append_assoc, List.append_assoc]
  exact (List.perm_append_comm_assoc b c d).append_left a

mutual

theorem filter_isMethod_owned (owner : Option String) : ∀ t : Tree,
    ((owned owner t).filter isMethod).Perm ([(owner, t)].filter isMethod ++ t.preorder.flatMap methodsIn)
  | .node k p parts => by
    have hparts := filter_isMethod_ownedParts (className? k parts) parts
    rw [← methodsIn_node k p parts, ← List.flatMap_cons] at hparts
    rw [owned, ← List.singleton_append, List.filter_append]
    exact hparts.append_left _
  | .list ts => by
    have hitems := filter_isMethod_ownedItems none ts
    rw [filter_isMethod_none] at hitems
    rw [filter_isMethod_singleton rfl]
    exact hitems
  | .name _ | .number _ | .constant _ | .absent => by
    rw [filter_isMethod_singleton rfl]
    exact .refl _

theorem filter_isMethod_ownedItems (owner : Option String) : ∀ ts : List Tree,
    ((ownedItems owner ts).filter isMethod).Perm
      ((ts.map (owner, ·)).filter isMethod ++ (preorderItems ts).flatMap methodsIn)
  | [] => .refl _
  | t :: ts => by
    have hjoined := (filter_isMethod_owned owner t).append (filter_isMethod_ownedItems owner ts)
    rw [ownedItems, preorderItems, List.filter_append, List.flatMap_append, List.map_cons, ← List.singleton_append,
      List.filter_append]
    exact hjoined.trans (append_interchange_perm _ _ _ _)

theorem filter_isMethod_ownedParts (owner : Option String) : ∀ parts : List (String × Tree),
    ((ownedParts owner parts).filter isMethod).Perm
      (((partOf "body" parts).items.map (owner, ·)).filter isMethod ++ (preorderParts parts).flatMap methodsIn)
  | [] => .refl _
  | (key, t) :: rest => by
    have hjoined := (filter_isMethod_ownedPart (if key = "body" then owner else none) t).append
      (filter_isMethod_ownedParts (if key = "body" then none else owner) rest)
    -- only the items of the first body have the owner
    have hbody : (t.items.map ((if key = "body" then owner else none), ·)).filter isMethod ++
        ((partOf "body" rest).items.map ((if key = "body" then none else owner), ·)).filter isMethod =
        ((partOf "body" ((key, t) :: rest)).items.map (owner, ·)).filter isMethod := by
      by_cases hkey : key = "body"
      · simp only [partOf, if_pos hkey, filter_isMethod_none, List.append_nil]
      · simp only [partOf, if_neg hkey, filter_isMethod_none, List.nil_append]
    rw [ownedParts, preorderParts, List.filter_append, List.flatMap_append, ← hbody]
    exact hjoined.trans (append_interchange_perm _ _ _ _)

theorem filter_isMethod_ownedPart (owner : Option String) : ∀ t : Tree,
    ((ownedPart owner t).filter isMethod).Perm ((t.items.map (owner, ·)).filter isMethod ++ t.preorder.flatMap methodsIn)
  | .node k p parts => by
    have hparts := filter_isMethod_ownedParts (className? k parts) parts
    rw [← methodsIn_node k p parts, ← List.flatMap_cons] at hparts
    exact hparts
  | .list ts => filter_isMethod_ownedItems owner ts
  | .name _ | .number _ | .constant _ | .absent => .refl _

end

theorem filter_isSome_definitions (t : Tree) : (t.definitions.filter (·.1.isSome)).Perm (t.preorder.flatMap methodsIn) := by
  have hmethods := filter_isMethod_owned none t
  rw [show [(none, t)].filter isMethod = [] from filter_isMethod_none [t], List.nil_append] at hmethods
  rwa [definitions, List.filter_filter]

/-! ## Entries -/

/-- What one node enters: itself, if it is a function, and the functions of its body, if it is a class. -/
theorem functionSymbols_eq (n : Tree) :
    n.functionSymbols = ([n].filter isFunction).map (fun f => entryOf (none, f)) ++ (methodsIn n).map entryOf := by
  unfold functionSymbols methodsIn
  by_cases hf : n.isFunction = true
  · have hclass : n.is "ClassDef" = false := by
      have hkind : n.kind = "FunctionDef" ∨ n.kind = "AsyncFunctionDef" := by simpa [isFunction, isOneOf] using hf
      rcases hkind with hk | hk <;> simp [is, hk]
    simp [hf, hclass, entryOf]
  · by_cases hclass : n.is "ClassDef" = true
    · simp [hf, hclass, entryOf]
    · simp [hf, hclass]

/-- It makes no difference whether every function is entered as a plain one and the methods once more, or every function as
it should be and the methods once more as plain ones. -/
theorem map_plainEntryOf_perm (ds : List (Option String × Tree)) :
    (ds.map plainEntryOf ++ (ds.filter (·.1.isSome)).map entryOf).Perm
      (ds.map entryOf ++ (ds.filter (·.1.isSome)).map plainEntryOf) := by
  induction ds with
  | nil => exact .refl _
  | cons d rest ih =>
    obtain ⟨owner, f⟩ := d
    cases owner with
    | none => exact ih.cons (entryOf (none, f))
    | some c =>
      have hswap := (ih.cons (entryOf (some c, f))).cons (plainEntryOf (some c, f))
      exact (List.perm_middle.cons _).trans (hswap.trans ((List.Perm.swap _ _ _).trans (List.perm_middle.symm.cons _)))

theorem functions_perm (t : Tree) :
    t.symbols.functions.Perm (t.definitions.map entryOf ++ (t.definitions.filter (·.1.isSome)).map plainEntryOf) := by
  have hself : (t.preorder.flatMap fun n => ([n].filter isFunction).map fun f => entryOf (none, f)) =
      t.definitions.map plainEntryOf := by
    rw [← List.map_flatMap, ← List.filter_flatMap, List.flatMap_singleton', ← map_snd_owned none t, definitions,
      List.filter_map, List.map_map]
    rfl
  have hnodes : t.symbols.functions =
      t.preorder.flatMap fun n => ([n].filter isFunction).map (fun f => entryOf (none, f)) ++ (methodsIn n).map entryOf :=
    List.flatMap_congr fun n _ => functionSymbols_eq n
  have hapart : t.symbols.functions.Perm (t.definitions.map plainEntryOf ++ (t.preorder.flatMap methodsIn).map entryOf) := by
    rw [hnodes, ← hself, List.map_flatMap]
    exact (List.flatMap_append_perm _ _ _).symm
  refine hapart.trans (List.Perm.trans ?_ (map_plainEntryOf_perm t.definitions))
  exact ((filter_isSome_definitions t).symm.map entryOf).append_left _

theorem mem_methodsIn {n f : Tree} {owner : Option String} : (owner, f) ∈ methodsIn n ↔
    n.is "ClassDef" = true ∧ owner = some (n.partText "name") ∧ f ∈ n.partItems "body" ∧ f.isFunction = true := by
  unfold methodsIn
  split
  · next hclass =>
    simp only [List.mem_map, List.mem_filter, Prod.mk.injEq, hclass, true_and]
    constructor
    · rintro ⟨g, hg, rfl, rfl⟩
      exact ⟨rfl, hg⟩
    · rintro ⟨rfl, hf⟩
      exact ⟨f, hf, rfl, rfl⟩
  · next hclass => simp [hclass]

theorem methodsIn_eq_nil {n : Tree} : methodsIn n = [] ↔
    (n.is "ClassDef" = true → ∀ f ∈ n.partItems "body", f.isFunction = false) := by
  unfold methodsIn
  split
  · next hclass => simp [hclass, List.filter_eq_nil_iff]
  · next hclass => simp [hclass]

theorem some_mem_definitions {t f : Tree} {c : String} : (some c, f) ∈ t.definitions ↔
    f.isFunction = true ∧ ∃ n ∈ t.preorder, n.is "ClassDef" = true ∧ n.partText "name" = c ∧ f ∈ n.partItems "body" := by
  have hsome : (some c, f) ∈ t.definitions ↔ (some c, f) ∈ t.definitions.filter (·.1.isSome) := by simp
  rw [hsome, (filter_isSome_definitions t).mem_iff, List.mem_flatMap]
  simp only [mem_methodsIn]
  grind

/-- The functions of a tree, each once and with the class in whose body it stands, against the table: a method has two
entries, one of them as no method. So the table is as it should be exactly if no class has a function in its body. -/
theorem functions_entered_once_iff (t : Tree) :
    t.definitions.map Prod.snd = t.preorder.filter isFunction ∧
    (∀ c f, (some c, f) ∈ t.definitions ↔
      f.isFunction = true ∧ ∃ n ∈ t.preorder, n.is "ClassDef" = true ∧ n.partText "name" = c ∧ f ∈ n.partItems "body") ∧
    t.symbols.functions.Perm (t.definitions.map entryOf ++ (t.definitions.filter (·.1.isSome)).map plainEntryOf) ∧
    (t.symbols.functions.Perm (t.definitions.map entryOf) ↔
      ∀ n ∈ t.preorder, n.is "ClassDef" = true → ∀ f ∈ n.partItems "body", f.isFunction = false) := by
  refine ⟨?_, fun c f => some_mem_definitions, functions_perm t, ?_⟩
  · rw [← map_snd_owned none t, definitions, List.filter_map]
    rfl
  · have hmethods : t.definitions.filter (·.1.isSome) = [] ↔
        ∀ n ∈ t.preorder, n.is "ClassDef" = true → ∀ f ∈ n.partItems "body", f.isFunction = false := by
      rw [← List.length_eq_zero_iff, (filter_isSome_definitions t).length_eq, List.length_eq_zero_iff,
        List.flatMap_eq_nil_iff]
      exact forall₂_congr fun n _ => methodsIn_eq_nil
    rw [← hmethods]
    constructor
    · intro h
      have hlength := (h.symm.trans (functions_perm t)).length_eq
      rw [List.length_append, List.length_map, List.length_map] at hlength
      exact List.eq_nil_of_length_eq_zero (by omega)
    · intro h
      have hentries := functions_perm t
      rwa [h, List.map_nil, List.append_nil] at hentries

def account : Tree :=
  .node "ClassDef" (some ⟨1, 0⟩) [("name", .name "Account"), ("bases", .list []), ("keywords", .list []),
    ("body", .list [.node "FunctionDef" (some ⟨2, 4⟩) [("name", .name "close"), ("args", .node "arguments" none []),
      ("body", .list [.node "Pass" (some ⟨3, 8⟩) []]), ("decorator_list", .list []), ("returns", .absent)]]),
    ("decorator_list", .list [])]

theorem method_entered_twice :
    (moduleOf [account]).symbols.functions = [⟨"close", 2, some "Account"⟩, ⟨"close", 2, none⟩] ∧
    (moduleOf [account]).definitions.map entryOf = [⟨"close", 2, some "Account"⟩] ∧
    ¬ ∀ t : Tree, t.symbols.functions.Perm (t.definitions.map entryOf) := by
  refine ⟨rfl, rfl, fun h => ?_⟩
  exact absurd (h (moduleOf [account])).length_eq (by decide)

end ThreatScan.Tree
