import ThreatScan.Proofs.Taint.State
import ThreatScan.Proofs.Taint.Views
import ThreatScan.Proofs.Text.Search
/-!
Flows do not depend on the names of variables.

A renaming keeps identifiers apart and leaves alone the names that inputs and dangerous calls are known by. It is applied to
every name and every attribute of a tree. The state that is built up on the renamed tree is the renamed state (`Renames`):
a variable is tainted in the one exactly if the renamed variable is in the other. Variables are compared by their texts, so
this rests on the dot, which no identifier holds: a text is renamed identifier by identifier (`onText`), and two variables
stay apart (`onText_inj`). What is proved: the flows of the renamed tree are the flows of the tree, renamed
(`taintFlows_renamed`).
-/
namespace ThreatScan

def IsIdentifier (x : String) : Prop := x ≠ "" ∧ '.' ∉ x.toList

instance (x : String) : Decidable (IsIdentifier x) := inferInstanceAs (Decidable (x ≠ "" ∧ '.' ∉ x.toList))

/-- The names that inputs and dangerous calls are known by. -/
def watchedNames : List String :=
  ["sys", "argv", "input", "raw_input", "os", "system", "popen", "subprocess", "call", "run", "Popen", "eval", "exec"]

/-- A renaming of identifiers that keeps them apart and leaves the watched names alone. -/
structure Renaming where
  apply : String → String
  isIdentifier : ∀ {x}, IsIdentifier x → IsIdentifier (apply x)
  injective : ∀ {x y}, IsIdentifier x → IsIdentifier y → apply x = apply y → x = y
  watched : ∀ {x}, x ∈ watchedNames → apply x = x

def identifiersOf (v : String) : List String := (Text.cutAt '.' v.toList).map String.ofList

def IsVariable (v : String) : Prop := ∀ x ∈ identifiersOf v, IsIdentifier x

/-! ## Texts of variables -/

theorem join_identifiersOf (v : String) : Text.join "." (identifiersOf v) = v := by
  have hpieces : (identifiersOf v).map String.toList = Text.cutAt '.' v.toList := by
    simp [identifiersOf, Function.comp_def]
  rw [Text.join, hpieces]
  exact (congrArg String.ofList (Text.joinWith_cutAt '.' v.toList)).trans String.ofList_toList

theorem identifiersOf_join {xs : List String} (hne : xs ≠ []) (h : ∀ x ∈ xs, '.' ∉ x.toList) :
    identifiersOf (Text.join "." xs) = xs := by
  have hcut : Text.cutAt '.' (Text.joinWith ['.'] (xs.map String.toList)) = xs.map String.toList := by
    refine Text.cutAt_joinWith (by simpa using hne) fun p hp => ?_
    obtain ⟨x, hx, rfl⟩ := List.mem_map.mp hp
    exact h x hx
  unfold identifiersOf Text.join
  rw [String.toList_ofList]
  exact (congrArg (List.map String.ofList) hcut).trans (by simp [Function.comp_def])

theorem identifiersOf_ne_nil (v : String) : identifiersOf v ≠ [] := by
  simpa [identifiersOf] using Text.cutAt_ne_nil '.' v.toList

theorem join_one (x : String) : Text.join "." [x] = x := by simp [Text.join, Text.joinWith]

theorem join_two (x y : String) : Text.join "." [x, y] = x ++ "." ++ y := by
  apply String.toList_injective
  simp [Text.join, Text.joinWith]

theorem identifiersOf_identifier {x : String} (hx : IsIdentifier x) : identifiersOf x = [x] := by
  have h := identifiersOf_join (List.cons_ne_nil x []) (by simpa using hx.2)
  rwa [join_one] at h

theorem identifiersOf_dotted {x y : String} (hx : IsIdentifier x) (hy : IsIdentifier y) :
    identifiersOf (x ++ "." ++ y) = [x, y] := by
  have h := identifiersOf_join (List.cons_ne_nil x [y]) (by simpa using ⟨hx.2, hy.2⟩)
  rwa [join_two] at h

namespace Renaming
variable (r : Renaming)

def onText (v : String) : String := Text.join "." ((identifiersOf v).map r.apply)

/-- A flow with its variable renamed. A flow without one is written with watched names only. -/
def onFlow (f : TaintFlow) : TaintFlow :=
  match f.via with
  | none => f
  | some v => { f with source := r.onText f.source, via := some (r.onText v) }

theorem identifiersOf_onText {v : String} (hv : IsVariable v) : identifiersOf (r.onText v) = (identifiersOf v).map r.apply := by
  refine identifiersOf_join (by simpa using identifiersOf_ne_nil v) fun x hx => ?_
  obtain ⟨y, hy, rfl⟩ := List.mem_map.mp hx
  exact (r.isIdentifier (hv y hy)).2

theorem eq_of_map_apply_eq {xs ys : List String} (hx : ∀ x ∈ xs, IsIdentifier x) (hy : ∀ y ∈ ys, IsIdentifier y)
    (h : xs.map r.apply = ys.map r.apply) : xs = ys := by
  induction xs generalizing ys with
  | nil => exact (List.map_eq_nil_iff.mp h.symm).symm
  | cons x xs ih =>
    cases ys with
    | nil => simp at h
    | cons y ys =>
      rw [List.map_cons, List.map_cons, List.cons.injEq] at h
      have hhead : x = y := r.injective (hx x List.mem_cons_self) (hy y List.mem_cons_self) h.1
      have htail : xs = ys :=
        ih (fun z hz => hx z (List.mem_cons_of_mem x hz)) (fun z hz => hy z (List.mem_cons_of_mem y hz)) h.2
      rw [hhead, htail]

theorem onText_inj {v w : String} (hv : IsVariable v) (hw : IsVariable w) : r.onText v = r.onText w ↔ v = w := by
  constructor
  · intro h
    have hmap : (identifiersOf v).map r.apply = (identifiersOf w).map r.apply := by
      rw [← r.identifiersOf_onText hv, ← r.identifiersOf_onText hw, h]
    rw [← join_identifiersOf v, r.eq_of_map_apply_eq hv hw hmap, join_identifiersOf]
  · rintro rfl
    rfl

theorem onText_identifier {x : String} (hx : IsIdentifier x) : r.onText x = r.apply x := by
  rw [onText, identifiersOf_identifier hx, List.map_singleton, join_one]

theorem onText_dotted {x y : String} (hx : IsIdentifier x) (hy : IsIdentifier y) :
    r.onText (x ++ "." ++ y) = r.apply x ++ "." ++ r.apply y := by
  rw [onText, identifiersOf_dotted hx hy, List.map_cons, List.map_singleton, join_two]

/-- An identifier stays as it is, or it is no watched name and does not become one. -/
theorem apply_cases {x : String} (hx : IsIdentifier x) :
    r.apply x = x ∨ (x ∉ watchedNames ∧ r.apply x ∉ watchedNames) := by
  by_cases hw : x ∈ watchedNames
  · exact .inl (r.watched hw)
  · refine .inr ⟨hw, fun hrw => hw ?_⟩
    have hsame : r.apply x = x := r.injective (r.isIdentifier hx) hx (r.watched hrw)
    rwa [hsame] at hrw

theorem apply_eq_watched {x w : String} (hx : IsIdentifier x) (hw : w ∈ watchedNames) : r.apply x = w ↔ x = w := by
  rcases r.apply_cases hx with hsame | ⟨hx, hrx⟩
  · rw [hsame]
  · exact iff_of_false (fun h => hrx (h ▸ hw)) (fun h => hx (h ▸ hw))

end Renaming

/-! ## Renamed trees -/

namespace Tree

/-- The part holds the identifier of a name, or of an attribute. -/
def holdsIdentifier (kind key : String) : Bool := (kind == "Name" && key == "id") || (kind == "Attribute" && key == "attr")

def mapText (f : String → String) : Tree → Tree
  | .name s => .name (f s)
  | t => t

mutual

/-- The tree with the identifiers of its names and attributes changed. -/
def renamed (f : String → String) : Tree → Tree
  | .node k p parts => .node k p (renamedParts f k parts)
  | .list ts => .list (renamedItems f ts)
  | t => t

def renamedItems (f : String → String) : List Tree → List Tree
  | [] => []
  | t :: ts => renamed f t :: renamedItems f ts

def renamedParts (f : String → String) (kind : String) : List (String × Tree) → List (String × Tree)
  | [] => []
  | (key, t) :: rest =>
    (key, if holdsIdentifier kind key then (renamed f t).mapText f else renamed f t) :: renamedParts f kind rest

end

/-- Every name and every attribute of the tree is an identifier, as in every tree of a module. -/
def Named (t : Tree) : Prop :=
  ∀ n ∈ t.preorder, (∀ x ∈ n.asName?, IsIdentifier x) ∧ ∀ e ∈ n.asAttribute?, IsIdentifier e.2

instance (t : Tree) : Decidable t.Named := by
  unfold Named
  infer_instance

section Renamed
variable (f : String → String)

theorem renamedItems_eq_map (ts : List Tree) : renamedItems f ts = ts.map (renamed f) := by
  induction ts with
  | nil => rfl
  | cons t rest ih => rw [renamedItems, ih, List.map_cons]

theorem preorder_mapText (t : Tree) : (t.mapText f).preorder = t.preorder := by
  cases t <;> rfl

mutual

theorem preorder_renamed : ∀ t : Tree, (t.renamed f).preorder = t.preorder.map (renamed f)
  | .node k p parts => by
    rw [renamed, preorder, preorder, preorderParts_renamed k parts, List.map_cons, renamed]
  | .list ts => by rw [renamed, preorder, preorder, preorderItems_renamed ts]
  | .name _ => rfl
  | .number _ => rfl
  | .constant _ => rfl
  | .absent => rfl

theorem preorderItems_renamed : ∀ ts : List Tree, preorderItems (renamedItems f ts) = (preorderItems ts).map (renamed f)
  | [] => rfl
  | t :: ts => by
    rw [renamedItems, preorderItems, preorderItems, preorder_renamed t, preorderItems_renamed ts, List.map_append]

theorem preorderParts_renamed (kind : String) : ∀ parts : List (String × Tree),
    preorderParts (renamedParts f kind parts) = (preorderParts parts).map (renamed f)
  | [] => rfl
  | (key, t) :: rest => by
    have hpart : (if holdsIdentifier kind key then (renamed f t).mapText f else renamed f t).preorder =
        t.preorder.map (renamed f) := by
      split
      · rw [preorder_mapText, preorder_renamed t]
      · exact preorder_renamed t
    rw [renamedParts, preorderParts, preorderParts, hpart, preorderParts_renamed kind rest, List.map_append]

end

variable (t : Tree)

@[simp] theorem kind_renamed : (t.renamed f).kind = t.kind := by
  cases t <;> rfl

@[simp] theorem is_renamed (k : String) : (t.renamed f).is k = t.is k := by
  rw [is, kind_renamed, is]

@[simp] theorem line_renamed : (t.renamed f).line = t.line := by
  cases t <;> rfl

theorem part_renamed (key : String) : (t.renamed f).part key =
    if holdsIdentifier t.kind key then ((t.part key).renamed f).mapText f else (t.part key).renamed f := by
  cases t with
  | node k p parts =>
    rw [renamed]
    change partOf key (renamedParts f k parts) =
      if holdsIdentifier k key then ((partOf key parts).renamed f).mapText f else (partOf key parts).renamed f
    induction parts with
    | nil => simp [renamedParts, partOf, renamed, mapText]
    | cons e rest ih =>
      obtain ⟨name, u⟩ := e
      rw [renamedParts, partOf, partOf]
      by_cases hn : name = key
      · subst hn
        rw [if_pos rfl, if_pos rfl]
      · rw [if_neg hn, if_neg hn]
        exact ih
  | _ => simp [renamed, part, mapText]

theorem part_renamed_of_ne {key : String} (hid : key ≠ "id") (hattr : key ≠ "attr") :
    (t.renamed f).part key = (t.part key).renamed f := by
  rw [part_renamed, if_neg]
  simp [holdsIdentifier, hid, hattr]

theorem partItems_renamed_of_ne {key : String} (hid : key ≠ "id") (hattr : key ≠ "attr") :
    (t.renamed f).partItems key = (t.partItems key).map (renamed f) := by
  rw [partItems, part_renamed_of_ne f t hid hattr, partItems]
  cases t.part key with
  | list ts => exact renamedItems_eq_map f ts
  | _ => rfl

theorem partText_renamed {key : String} (hk : holdsIdentifier t.kind key = true) (hne : t.partText key ≠ "") :
    (t.renamed f).partText key = f (t.partText key) := by
  unfold partText at hne ⊢
  rw [part_renamed, if_pos hk]
  cases hp : t.part key with
  | name x => rfl
  | _ => exact absurd (by rw [hp]; rfl) hne

end Renamed

/-! ## Names in a tree of identifiers -/

theorem value_of_asAttribute? {t value : Tree} {attr : String} (h : t.asAttribute? = some (value, attr)) :
    value = t.part "value" := by
  obtain ⟨-, hpair⟩ := Option.ite_none_right_eq_some.mp h
  cases hpair
  rfl

namespace Named
variable {t : Tree} (h : t.Named)
include h

theorem of_mem {n : Tree} (hn : n ∈ t.preorder) : n.Named :=
  fun m hm => h m (preorder_subset_of_mem hn hm)

theorem part (key : String) : (t.part key).Named :=
  fun n hn => h n ((preorder_part_sublist t key).subset hn)

theorem of_mem_partItems {key : String} {u : Tree} (hu : u ∈ t.partItems key) : u.Named := by
  intro n hn
  refine h n ((preorderItems_partItems_sublist t key).subset ?_)
  have hsub := preorderItems_sublist (List.singleton_sublist.mpr hu)
  exact hsub.subset (by simpa [preorderItems] using hn)

theorem of_asName? {x : String} (hx : t.asName? = some x) : IsIdentifier x := by
  have hk : t.is "Name" = true := (Option.ite_none_right_eq_some.mp hx).1
  exact (h t (mem_preorder_of_is hk (by decide))).1 x hx

theorem of_asAttribute? {e : Tree × String} (he : t.asAttribute? = some e) : IsIdentifier e.2 := by
  have hk : t.is "Attribute" = true := (Option.ite_none_right_eq_some.mp he).1
  exact (h t (mem_preorder_of_is hk (by decide))).2 e he

theorem of_asDotted? {x a : String} (hd : t.asDotted? = some (x, a)) : IsIdentifier x ∧ IsIdentifier a := by
  unfold asDotted? at hd
  split at hd
  · next value attr he =>
    obtain ⟨y, hy, hpair⟩ := Option.map_eq_some_iff.mp hd
    cases hpair
    rw [value_of_asAttribute? he] at hy
    exact ⟨(h.part "value").of_asName? hy, h.of_asAttribute? he⟩
  · simp at hd

theorem isVariable {v : String} (hv : t.variableName? = some v) : IsVariable v := by
  unfold variableName? at hv
  split at hv
  · next x hx =>
    cases hv
    have hid := h.of_asName? hx
    simpa [IsVariable, identifiersOf_identifier hid] using hid
  · obtain ⟨⟨x, a⟩, hd, rfl⟩ := Option.map_eq_some_iff.mp hv
    obtain ⟨hx, ha⟩ := h.of_asDotted? hd
    simpa [IsVariable, identifiersOf_dotted hx ha] using ⟨hx, ha⟩

end Named

section Views
variable (r : Renaming) {t : Tree} (h : t.Named)
include h

theorem asName?_renamed : (t.renamed r.apply).asName? = t.asName?.map r.apply := by
  unfold asName?
  rw [is_renamed]
  cases hk : t.is "Name" with
  | false => rfl
  | true =>
    have hx : IsIdentifier (t.partText "id") := h.of_asName? (by rw [asName?, if_pos hk])
    have hkind : t.kind = "Name" := beq_iff_eq.mp hk
    rw [if_pos rfl, if_pos rfl, partText_renamed _ t (by simp [holdsIdentifier, hkind]) hx.1]
    rfl

theorem asAttribute?_renamed : (t.renamed r.apply).asAttribute? =
    t.asAttribute?.map fun e => (e.1.renamed r.apply, r.apply e.2) := by
  unfold asAttribute?
  rw [is_renamed]
  cases hk : t.is "Attribute" with
  | false => rfl
  | true =>
    have ha : IsIdentifier (t.partText "attr") := h.of_asAttribute? (by rw [asAttribute?, if_pos hk])
    have hkind : t.kind = "Attribute" := beq_iff_eq.mp hk
    rw [if_pos rfl, if_pos rfl, part_renamed_of_ne _ t (by decide) (by decide),
      partText_renamed _ t (by simp [holdsIdentifier, hkind]) ha.1]
    rfl

theorem asDotted?_renamed : (t.renamed r.apply).asDotted? = t.asDotted?.map fun e => (r.apply e.1, r.apply e.2) := by
  unfold asDotted?
  rw [asAttribute?_renamed r h]
  cases he : t.asAttribute? with
  | none => rfl
  | some e =>
    obtain ⟨value, attr⟩ := e
    have hname := asName?_renamed r (h.part "value")
    rw [← value_of_asAttribute? he] at hname
    simp only [Option.map_some, hname, Option.map_map, Function.comp_def]

theorem variableName?_renamed : (t.renamed r.apply).variableName? = t.variableName?.map r.onText := by
  unfold variableName?
  rw [asName?_renamed r h, asDotted?_renamed r h]
  cases hx : t.asName? with
  | some x =>
    simp only [Option.map_some]
    rw [r.onText_identifier (h.of_asName? hx)]
  | none =>
    cases hd : t.asDotted? with
    | none => rfl
    | some e =>
      obtain ⟨x, a⟩ := e
      obtain ⟨hx, ha⟩ := h.of_asDotted? hd
      simp only [Option.map_none, Option.map_some]
      rw [r.onText_dotted hx ha]

theorem asName?_renamed_eq_some {w : String} (hw : w ∈ watchedNames) :
    (t.renamed r.apply).asName? = some w ↔ t.asName? = some w := by
  rw [asName?_renamed r h]
  cases hx : t.asName? with
  | none => simp
  | some x => simpa using r.apply_eq_watched (h.of_asName? hx) hw

theorem asDotted?_renamed_eq_some {m a : String} (hm : m ∈ watchedNames) (ha : a ∈ watchedNames) :
    (t.renamed r.apply).asDotted? = some (m, a) ↔ t.asDotted? = some (m, a) := by
  rw [asDotted?_renamed r h]
  cases hd : t.asDotted? with
  | none => simp
  | some e =>
    obtain ⟨x, y⟩ := e
    obtain ⟨hx, hy⟩ := h.of_asDotted? hd
    simp [r.apply_eq_watched hx hm, r.apply_eq_watched hy ha]

theorem isArgv_renamed : ((t.renamed r.apply).part "value").asDotted? = some ("sys", "argv") ↔
    (t.part "value").asDotted? = some ("sys", "argv") := by
  rw [part_renamed_of_ne _ t (by decide) (by decide)]
  exact asDotted?_renamed_eq_some r (h.part "value") (by decide) (by decide)

theorem isReader_renamed {n : String} (hn : n ∈ ["input", "raw_input"]) :
    ((t.renamed r.apply).part "func").asName? = some n ↔ (t.part "func").asName? = some n := by
  have hwatched : ["input", "raw_input"] ⊆ watchedNames := by decide
  rw [part_renamed_of_ne _ t (by decide) (by decide)]
  exact asName?_renamed_eq_some r (h.part "func") (hwatched hn)

theorem isInput_renamed : (t.renamed r.apply).isInput = t.isInput := by
  rw [Bool.eq_iff_iff, isInput_iff, isInput_iff, is_renamed, is_renamed, isArgv_renamed r h]
  refine or_congr_right (and_congr_right fun _ => exists_congr fun n => and_congr_right fun hn => ?_)
  exact isReader_renamed r h hn

theorem dangerousCall?_renamed : (t.renamed r.apply).dangerousCall? = t.dangerousCall? := by
  unfold dangerousCall?
  rw [part_renamed_of_ne _ t (by decide) (by decide), asName?_renamed r (h.part "func"),
    asDotted?_renamed r (h.part "func")]
  cases hx : (t.part "func").asName? with
  | some x =>
    -- a name that changes is not the name of a dangerous function, neither before nor after
    rcases r.apply_cases ((h.part "func").of_asName? hx) with hsame | ⟨hx, hrx⟩
    · simp only [Option.map_some, hsame]
    · simp only [watchedNames, List.mem_cons, not_or] at hx hrx
      simp [hx, hrx]
  | none =>
    cases hd : (t.part "func").asDotted? with
    | none => rfl
    | some e =>
      obtain ⟨m, a⟩ := e
      obtain ⟨hm, ha⟩ := (h.part "func").of_asDotted? hd
      rcases r.apply_cases hm with hsame | ⟨hm, hrm⟩
      · rcases r.apply_cases ha with hsame' | ⟨ha, hra⟩
        · simp only [Option.map_none, Option.map_some, hsame, hsame']
        · simp only [watchedNames, List.mem_cons, not_or] at ha hra
          simp [hsame, ha, hra]
      · simp only [watchedNames, List.mem_cons, not_or] at hm hrm
        simp [hm, hrm]

theorem outline_renamed_of_isInput (hi : t.isInput = true) : (t.renamed r.apply).outline = t.outline := by
  rcases isInput_iff.mp hi with ⟨hs, hv⟩ | ⟨hc, n, hn, hf⟩
  · have hs' : (t.renamed r.apply).is "Subscript" = true := by rwa [is_renamed]
    rw [outline_of_subscript hs' ((isArgv_renamed r h).mpr hv), outline_of_subscript hs hv]
  · have hc' : (t.renamed r.apply).is "Call" = true := by rwa [is_renamed]
    rw [outline_of_call hc' ((isReader_renamed r h hn).mpr hf), outline_of_call hc hf]

theorem assignedNames_renamed : (t.renamed r.apply).assignedNames = t.assignedNames.map r.onText := by
  unfold assignedNames
  rw [partItems_renamed_of_ne _ t (by decide) (by decide), List.filterMap_map, List.map_filterMap]
  refine List.filterMap_congr fun u hu => ?_
  exact variableName?_renamed r (h.of_mem_partItems hu)

theorem isVariable_of_mem_assignedNames {v : String} (hv : v ∈ t.assignedNames) : IsVariable v := by
  obtain ⟨u, hu, huv⟩ := List.mem_filterMap.mp hv
  exact (h.of_mem_partItems hu).isVariable huv

end Views
end Tree

/-! ## Renamed states -/

/-- The second state is the first one renamed: the flows are, and so are the variables that are tainted, with their
lines. -/
structure Renames (r : Renaming) (s s' : TaintState) : Prop where
  flows : s'.flows = s.flows.map r.onFlow
  tainted : ∀ v, IsVariable v → s'.isTainted (r.onText v) = s.isTainted v
  line : ∀ v, IsVariable v → s'.assignedLine? (r.onText v) = s.assignedLine? v

namespace Renames
variable {r : Renaming} {s s' : TaintState} (h : Renames r s s')
include h

theorem valueTainted {value : Tree} (hn : value.Named) : s'.valueTainted (value.renamed r.apply) = s.valueTainted value := by
  unfold TaintState.valueTainted
  rw [Tree.isInput_renamed r hn, Tree.variableName?_renamed r hn]
  cases hv : value.variableName? with
  | none => rfl
  | some v => simp [h.tainted v (hn.isVariable hv)]

theorem flow? (sink : String) (line : Nat) {arg : Tree} (hn : arg.Named) :
    s'.flow? sink line (arg.renamed r.apply) = (s.flow? sink line arg).map r.onFlow := by
  unfold TaintState.flow?
  rw [Tree.isInput_renamed r hn]
  cases hi : arg.isInput with
  | true =>
    rw [if_pos rfl, if_pos rfl, Tree.outline_renamed_of_isInput r hn hi]
    rfl
  | false =>
    rw [if_neg (by simp), if_neg (by simp), Tree.variableName?_renamed r hn]
    cases hv : arg.variableName? with
    | none => rfl
    | some v =>
      -- a variable is written as its name, on both sides
      have hvar := hn.isVariable hv
      have hout : (arg.renamed r.apply).outline = r.onText v :=
        Tree.outline_of_variableName? (by rw [Tree.variableName?_renamed r hn, hv]; rfl)
      simp only [Option.map_some, h.tainted v hvar, h.line v hvar, hout, Tree.outline_of_variableName? hv]
      split <;> rfl

theorem assign {n : Tree} (hn : n.Named) : Renames r (s.assign n) (s'.assign (n.renamed r.apply)) := by
  have hvalue : s'.valueTainted ((n.renamed r.apply).part "value") = s.valueTainted (n.part "value") := by
    rw [Tree.part_renamed_of_ne _ n (by decide) (by decide)]
    exact h.valueTainted (hn.part "value")
  -- no other variable takes the renamed name of an assigned one
  have hnames : ∀ v, IsVariable v → (r.onText v ∈ (n.renamed r.apply).assignedNames ↔ v ∈ n.assignedNames) := by
    intro v hv
    rw [Tree.assignedNames_renamed r hn, List.mem_map]
    constructor
    · rintro ⟨w, hw, heq⟩
      rwa [← (r.onText_inj (Tree.isVariable_of_mem_assignedNames hn hw) hv).mp heq]
    · intro hmem
      exact ⟨v, hmem, rfl⟩
  constructor
  · rw [TaintState.flows_assign, TaintState.flows_assign, h.flows]
  · intro v hv
    rw [Bool.eq_iff_iff, TaintState.isTainted_assign, TaintState.isTainted_assign, hvalue, h.tainted v hv, hnames v hv]
  · intro v hv
    rw [TaintState.assignedLine?_assign, TaintState.assignedLine?_assign, hvalue, h.line v hv, Tree.line_renamed]
    simp only [hnames v hv]

theorem call {n : Tree} (hn : n.Named) : Renames r (s.call n) (s'.call (n.renamed r.apply)) := by
  constructor
  · rw [TaintState.flows_call, TaintState.flows_call, List.map_append, h.flows, Tree.dangerousCall?_renamed r hn,
      Tree.line_renamed, Tree.partItems_renamed_of_ne _ n (by decide) (by decide)]
    congr 1
    cases n.dangerousCall? with
    | none => rfl
    | some sink =>
      simp only [Option.map_some, Option.getD_some, List.filterMap_map, List.map_filterMap]
      exact List.filterMap_congr fun arg harg => h.flow? sink n.line (hn.of_mem_partItems harg)
  · intro v hv
    rw [TaintState.isTainted_call, TaintState.isTainted_call, h.tainted v hv]
  · intro v hv
    rw [TaintState.assignedLine?_call, TaintState.assignedLine?_call, h.line v hv]

theorem step {n : Tree} (hn : n.Named) : Renames r (s.step n) (s'.step (n.renamed r.apply)) := by
  unfold TaintState.step
  rw [Tree.is_renamed, Tree.is_renamed]
  split
  · exact h.assign hn
  · split
    · exact h.call hn
    · exact h

theorem run {ns : List Tree} (hns : ∀ n ∈ ns, n.Named) :
    Renames r (ns.foldl TaintState.step s) ((ns.map (Tree.renamed r.apply)).foldl TaintState.step s') := by
  induction ns generalizing s s' with
  | nil => exact h
  | cons n rest ih =>
    exact ih (h.step (hns n List.mem_cons_self)) fun m hm => hns m (List.mem_cons_of_mem n hm)

end Renames

theorem renames_empty (r : Renaming) : Renames r .empty .empty where
  flows := rfl
  tainted v _ := by simp only [TaintState.isTainted, TaintState.empty, List.contains_nil]
  line v _ := by simp only [TaintState.assignedLine?, TaintState.empty, List.lookup_nil]

/-! ## Flows of inputs themselves -/

/-- The flow of an input that stands in the call itself is written in one of three ways. -/
def WritesInput (f : TaintFlow) : Prop := f.via = none → f.source ∈ ["sys.argv[...]", "input(...)", "raw_input(...)"]

namespace TaintState

theorem writesInput_of_flow? {s : TaintState} {sink : String} {line : Nat} {arg : Tree} {f : TaintFlow}
    (h : s.flow? sink line arg = some f) : WritesInput f := by
  unfold flow? at h
  split at h
  · next hi =>
    cases h
    exact fun _ => Tree.outline_of_isInput hi
  · split at h
    · obtain ⟨-, hf⟩ := Option.ite_none_right_eq_some.mp h
      cases hf
      exact fun hvia => absurd hvia (Option.some_ne_none _)
    · cases h

theorem writesInput_step {s : TaintState} (hs : ∀ f ∈ s.flows, WritesInput f) (n : Tree) :
    ∀ f ∈ (s.step n).flows, WritesInput f := by
  unfold step
  split
  · rw [flows_assign]
    exact hs
  · split
    · rw [flows_call]
      intro f hf
      rcases List.mem_append.mp hf with hf | hf
      · exact hs f hf
      · cases hd : n.dangerousCall? with
        | none => simp [hd] at hf
        | some sink =>
          rw [hd] at hf
          obtain ⟨arg, -, harg⟩ := List.mem_filterMap.mp hf
          exact writesInput_of_flow? harg
    · exact hs

theorem writesInput_run (ns : List Tree) {s : TaintState} (hs : ∀ f ∈ s.flows, WritesInput f) :
    ∀ f ∈ (ns.foldl step s).flows, WritesInput f := by
  induction ns generalizing s with
  | nil => exact hs
  | cons n rest ih => exact ih (writesInput_step hs n)

end TaintState

/-- The flows of the renamed tree are the renamed flows, in the same order and on the same lines. In a flow without a variable
there is nothing to rename. -/
theorem taintFlows_renamed (r : Renaming) {t : Tree} (h : t.Named) :
    (t.renamed r.apply).taintFlows = t.taintFlows.map r.onFlow ∧ ∀ f ∈ t.taintFlows, WritesInput f := by
  constructor
  · have hrun := (renames_empty r).run fun n hn => h.of_mem hn
    rw [← Tree.preorder_renamed] at hrun
    exact hrun.flows
  · exact TaintState.writesInput_run t.preorder fun f hf => absurd hf List.not_mem_nil

namespace SwappedNames
open ThreatScan.Tree

/-- Two names that change places. -/
def swapped (x : String) : String := if x = "cmd" then "safe" else if x = "safe" then "cmd" else x

theorem swapped_swapped (x : String) : swapped (swapped x) = x := by
  unfold swapped
  by_cases hc : x = "cmd"
  · simp [hc]
  · by_cases hs : x = "safe" <;> simp [hc, hs]

def swap : Renaming where
  apply := swapped
  isIdentifier {x} hx := by
    unfold swapped
    split
    · decide
    · split
      · decide
      · exact hx
  injective {x y} _ _ h := by rw [← swapped_swapped x, h, swapped_swapped]
  watched {x} hx := by
    have hall : ∀ w ∈ watchedNames, swapped w = w := by decide
    exact hall x hx

/-- `job.cmd = input()`, `safe = job.cmd`, `os.system(safe)`, `eval(input())` -/
def script : Tree :=
  moduleOf [assignAt 1 (attributeAt 1 "job" "cmd") (callAt 1 (nameAt 1 "input") []),
    assignAt 2 (nameAt 2 "safe") (attributeAt 2 "job" "cmd"),
    exprAt 3 (callAt 3 (attributeAt 3 "os" "system") [nameAt 3 "safe"]),
    exprAt 4 (callAt 4 (nameAt 4 "eval") [attributeAt 4 "job" "cmd", callAt 4 (nameAt 4 "input") []])]

/-- The flows with the two names in each other's place. -/
theorem flows_of_swapped_script :
    script.Named ∧
    script.taintFlows = [⟨"safe", "os.system", 2, 3, some "safe"⟩, ⟨"job.cmd", "eval", 1, 4, some "job.cmd"⟩,
      ⟨"input(...)", "eval", 4, 4, none⟩] ∧
    (script.renamed swap.apply).taintFlows = [⟨"cmd", "os.system", 2, 3, some "cmd"⟩,
      ⟨"job.safe", "eval", 1, 4, some "job.safe"⟩, ⟨"input(...)", "eval", 4, 4, none⟩] := by
  have hnamed : script.Named := by decide
  have hflows : script.taintFlows = [⟨"safe", "os.system", 2, 3, some "safe"⟩, ⟨"job.cmd", "eval", 1, 4, some "job.cmd"⟩,
      ⟨"input(...)", "eval", 4, 4, none⟩] := by
    decide
  refine ⟨hnamed, hflows, ?_⟩
  rw [(taintFlows_renamed swap hnamed).1, hflows]
  decide

end SwappedNames
end ThreatScan
