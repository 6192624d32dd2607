import ThreatScan.Proofs.Checked
import ThreatScan.Proofs.Value.NumberOrder
import ThreatScan.Threat.Identify
/-!
The line numbers of a threat.

They are some of the lines given, each positive; every positive line given is there, as itself or as a number equal to it;
and they increase strictly. So they depend only on which numbers were given, not on how often or in which order
(`sameItems_sortedLines`).
-/
namespace ThreatScan

namespace Value

theorem same_iff_size? {a b : Value} {x : Size} (h : a.size? = some x) : same a b = true ↔ b.size? = some x := by
  have hs : same a b = (compareNumbers? a b == some .eq) := by
    cases a with
    | bool _ => cases b <;> simp [same]
    | int _ => cases b <;> simp [same]
    | float _ => cases b <;> simp [same]
    | _ => simp [size?] at h
  rw [hs, compareNumbers?_eq_map_cmp, h]
  cases hb : b.size? with
  | none => simp
  | some y =>
    simp only [Option.bind_some, Option.map_some, beq_iff_eq, Option.some.injEq, cmp_eq_eq_iff]
    exact eq_comm

theorem isNumber_of_size? {a : Value} {x : Size} (h : a.size? = some x) : a.isNumber = true := by
  cases a <;> simp_all [size?, isNumber]

end Value

namespace Threat

theorem isPositive_eq_true {l : Value} : isPositive l = .ok true ↔ ∃ x, l.size? = some x ∧ Size.ofRat 0 < x := by
  have h0 : (Value.int 0).size? = some (Size.ofRat 0) := by simp [Value.size?]
  unfold isPositive
  split
  · rw [Value.compareNumbers?_eq_map_cmp, h0]
    cases l.size? with
    | none => simp
    | some x => simp [cmp_eq_gt_iff]
  · next hn =>
    constructor
    · intro h; simp at h
    · rintro ⟨x, hx, -⟩
      exact absurd (Value.isNumber_of_size? hx) hn

theorem isPositive_int (n : Int) : isPositive (.int n) = .ok (decide (0 < n)) := by
  have hc : (Value.int n).compareNumbers? (.int 0) = some (compare n 0) := rfl
  unfold isPositive
  rw [hc]
  by_cases h : 0 < n
  · simp [Value.isNumber, h, compare_gt_iff_gt.mpr h]
  · have hne : compare n 0 ≠ .gt := fun hgt => h (compare_gt_iff_gt.mp hgt)
    simp [Value.isNumber, h, hne]

/-! ## One line put into its place -/

def sizes (ls : List Value) : List Size := ls.filterMap Value.size?

theorem sizes_cons {l : Value} {x : Size} (h : l.size? = some x) (ls : List Value) : sizes (l :: ls) = x :: sizes ls :=
  List.filterMap_cons_some h

section Insert
variable {l : Value} {x : Size} (hl : l.size? = some x)
include hl

/-- Where a line goes: before the first greater one, nowhere if an equal one is there. -/
theorem insertLine_cons {k : Value} {y : Size} (hk : k.size? = some y) (rest : List Value) :
    insertLine l (k :: rest) =
      if x < y then l :: k :: rest else if x = y then k :: rest else k :: insertLine l rest := by
  have hc : l.compareNumbers? k = some (cmp x y) := by rw [Value.compareNumbers?_eq_map_cmp, hl, hk]; rfl
  rw [insertLine, hc]
  rcases lt_trichotomy x y with h | h | h
  · rw [(cmp_eq_lt_iff x y).mpr h, if_pos h]
  · rw [(cmp_eq_eq_iff x y).mpr h, if_neg (by simp [h]), if_pos h]
  · rw [(cmp_eq_gt_iff x y).mpr h, if_neg (lt_asymm h), if_neg (ne_of_gt h)]

variable {ls : List Value} (hm : ∀ k ∈ ls, k.size?.isSome = true)
include hm

theorem mem_insertLine {v : Value} (hv : v ∈ insertLine l ls) : v = l ∨ v ∈ ls := by
  induction ls with
  | nil => simpa [insertLine] using hv
  | cons k rest ih =>
    obtain ⟨y, hy⟩ := Option.isSome_iff_exists.mp (hm k List.mem_cons_self)
    rw [insertLine_cons hl hy] at hv
    split at hv
    · exact List.mem_cons.mp hv
    · split at hv
      · exact .inr hv
      · rcases List.mem_cons.mp hv with rfl | hv
        · exact .inr List.mem_cons_self
        · exact (ih (fun j hj => hm j (List.mem_cons_of_mem k hj)) hv).imp_right (List.mem_cons_of_mem k)

theorem isSome_size?_insertLine : ∀ k ∈ insertLine l ls, k.size?.isSome = true := by
  intro k hk
  rcases mem_insertLine hl hm hk with rfl | hk
  · simp [hl]
  · exact hm k hk

theorem mem_sizes_insertLine {z : Size} : z ∈ sizes (insertLine l ls) ↔ z = x ∨ z ∈ sizes ls := by
  induction ls with
  | nil => simp [insertLine, sizes, hl, eq_comm]
  | cons k rest ih =>
    obtain ⟨y, hy⟩ := Option.isSome_iff_exists.mp (hm k List.mem_cons_self)
    have ih := ih fun j hj => hm j (List.mem_cons_of_mem k hj)
    rw [insertLine_cons hl hy]
    split
    · rw [sizes_cons hl, List.mem_cons]
    · split
      · -- the line itself is dropped: its size is there already
        next hxy => simp [sizes_cons hy, hxy]
      · rw [sizes_cons hy, sizes_cons hy, List.mem_cons, List.mem_cons, ih, or_left_comm]

theorem sizes_insertLine_pairwise (hs : (sizes ls).Pairwise (· < ·)) : (sizes (insertLine l ls)).Pairwise (· < ·) := by
  induction ls with
  | nil => simp [insertLine, sizes, hl]
  | cons k rest ih =>
    obtain ⟨y, hy⟩ := Option.isSome_iff_exists.mp (hm k List.mem_cons_self)
    have hrest := fun j hj => hm j (List.mem_cons_of_mem k hj)
    rw [insertLine_cons hl hy]
    rw [sizes_cons hy] at hs
    obtain ⟨hlt, htail⟩ := List.pairwise_cons.mp hs
    split
    · next hxy =>
      rw [sizes_cons hl, sizes_cons hy]
      refine List.pairwise_cons.mpr ⟨?_, hs⟩
      intro z hz
      rcases List.mem_cons.mp hz with rfl | hz
      · exact hxy
      · exact lt_trans hxy (hlt z hz)
    · next hxy =>
      split
      · rw [sizes_cons hy]
        exact hs
      · next hne =>
        rw [sizes_cons hy]
        refine List.pairwise_cons.mpr ⟨?_, ih hrest htail⟩
        intro z hz
        rcases (mem_sizes_insertLine hl hrest).mp hz with rfl | hz
        · exact lt_of_le_of_ne (not_lt.mp hxy) (Ne.symm hne)
        · exact hlt z hz

end Insert

/-! ## All lines -/

section Fold
variable {ls acc : List Value} (hls : ∀ l ∈ ls, l.size?.isSome = true) (hacc : ∀ l ∈ acc, l.size?.isSome = true)
include hls hacc

theorem mem_foldl_insertLine {v : Value} (hv : v ∈ ls.foldl (fun acc l => insertLine l acc) acc) : v ∈ acc ∨ v ∈ ls := by
  induction ls generalizing acc with
  | nil => exact .inl hv
  | cons l rest ih =>
    obtain ⟨x, hx⟩ := Option.isSome_iff_exists.mp (hls l List.mem_cons_self)
    have hnew := isSome_size?_insertLine hx hacc
    rcases ih (fun k hk => hls k (List.mem_cons_of_mem l hk)) hnew hv with h | h
    · rcases mem_insertLine hx hacc h with rfl | h
      · exact .inr List.mem_cons_self
      · exact .inl h
    · exact .inr (List.mem_cons_of_mem l h)

/-- Every size given is there, and the sizes increase. -/
theorem sizes_foldl_insertLine (hs : (sizes acc).Pairwise (· < ·)) :
    (∀ z, z ∈ sizes (ls.foldl (fun acc l => insertLine l acc) acc) ↔ z ∈ sizes acc ∨ z ∈ sizes ls) ∧
    (sizes (ls.foldl (fun acc l => insertLine l acc) acc)).Pairwise (· < ·) := by
  induction ls generalizing acc with
  | nil => exact ⟨by simp [sizes], hs⟩
  | cons l rest ih =>
    obtain ⟨x, hx⟩ := Option.isSome_iff_exists.mp (hls l List.mem_cons_self)
    have hnew := isSome_size?_insertLine hx hacc
    obtain ⟨hmem, hpair⟩ := ih (fun k hk => hls k (List.mem_cons_of_mem l hk)) hnew
      (sizes_insertLine_pairwise hx hacc hs)
    refine ⟨fun z => ?_, hpair⟩
    rw [List.foldl_cons, hmem, mem_sizes_insertLine hx hacc, sizes_cons hx, List.mem_cons]
    tauto

end Fold

theorem exists_sortedLines {ls : List Value} (h : ∀ l ∈ ls, l.isNumber = true) : ∃ out, sortedLines ls = .ok out := by
  have hp : ∀ l ∈ ls, ∃ b, isPositive l = .ok b := by
    intro l hl
    unfold isPositive
    rw [if_pos (h l hl)]
    exact ⟨_, rfl⟩
  obtain ⟨ps, hps⟩ := Checked.exists_filterM_eq_ok hp
  exact ⟨_, Checked.bind_eq_ok.mpr ⟨ps, hps, rfl⟩⟩

section Sorted
variable {ls out : List Value} (h : sortedLines ls = .ok out)
include h

theorem sortedLines_eq_foldl : ∃ ps : List Value, (∀ l, l ∈ ps ↔ l ∈ ls ∧ isPositive l = .ok true) ∧
    (∀ l ∈ ps, l.size?.isSome = true) ∧ out = ps.foldl (fun acc l => insertLine l acc) [] := by
  obtain ⟨ps, hps, hp⟩ := Checked.bind_eq_ok.mp h
  have hmem : ∀ l, l ∈ ps ↔ l ∈ ls ∧ isPositive l = .ok true := by
    intro l
    rw [Checked.filterM_eq_ok hps, List.mem_filter, beq_iff_eq, Checked.toOption_eq_some]
  refine ⟨ps, hmem, ?_, (Checked.pure_eq_ok.mp hp).symm⟩
  intro l hl
  obtain ⟨x, hx, -⟩ := isPositive_eq_true.mp ((hmem l).mp hl).2
  simp [hx]

theorem mem_of_mem_sortedLines {v : Value} (hv : v ∈ out) : v ∈ ls ∧ isPositive v = .ok true := by
  obtain ⟨ps, hmem, hsome, rfl⟩ := sortedLines_eq_foldl h
  rcases mem_foldl_insertLine hsome (by simp) hv with hv | hv
  · simp at hv
  · exact (hmem v).mp hv

theorem mem_sizes_sortedLines {z : Size} : z ∈ sizes out ↔ z ∈ sizes ls ∧ Size.ofRat 0 < z := by
  obtain ⟨ps, hmem, hsome, rfl⟩ := sortedLines_eq_foldl h
  rw [(sizes_foldl_insertLine hsome (by simp) List.Pairwise.nil).1]
  simp only [sizes, List.filterMap_nil, List.not_mem_nil, false_or, List.mem_filterMap, hmem, isPositive_eq_true]
  constructor
  · rintro ⟨l, ⟨hl, x, hx, hpos⟩, hz⟩
    rw [hx] at hz
    cases hz
    exact ⟨⟨l, hl, hx⟩, hpos⟩
  · rintro ⟨⟨l, hl, hz⟩, hpos⟩
    exact ⟨l, ⟨hl, z, hz, hpos⟩, hz⟩

theorem sizes_sortedLines_pairwise : (sizes out).Pairwise (· < ·) := by
  obtain ⟨ps, -, hsome, rfl⟩ := sortedLines_eq_foldl h
  exact (sizes_foldl_insertLine hsome (by simp) List.Pairwise.nil).2

/-- A positive line given is among the lines, up to the kind of the number. -/
theorem exists_same_of_mem {v : Value} (hv : v ∈ ls) (hp : isPositive v = .ok true) : ∃ u ∈ out, v.same u = true := by
  obtain ⟨x, hx, hpos⟩ := isPositive_eq_true.mp hp
  have hz : x ∈ sizes out := (mem_sizes_sortedLines h).mpr ⟨List.mem_filterMap.mpr ⟨v, hv, hx⟩, hpos⟩
  obtain ⟨u, hu, hux⟩ := List.mem_filterMap.mp hz
  exact ⟨u, hu, (Value.same_iff_size? hx).mpr hux⟩

end Sorted

theorem sameItems_of_sizes {ls ks : List Value} (hls : ∀ l ∈ ls, l.size?.isSome = true)
    (hks : ∀ k ∈ ks, k.size?.isSome = true) (h : sizes ls = sizes ks) : Value.sameItems ls ks = true := by
  induction ls generalizing ks with
  | nil =>
    cases ks with
    | nil => simp [Value.sameItems]
    | cons k rest =>
      obtain ⟨y, hy⟩ := Option.isSome_iff_exists.mp (hks k List.mem_cons_self)
      rw [sizes_cons hy] at h
      simp [sizes] at h
  | cons l lrest ih =>
    obtain ⟨x, hx⟩ := Option.isSome_iff_exists.mp (hls l List.mem_cons_self)
    cases ks with
    | nil =>
      rw [sizes_cons hx] at h
      simp [sizes] at h
    | cons k rest =>
      obtain ⟨y, hy⟩ := Option.isSome_iff_exists.mp (hks k List.mem_cons_self)
      rw [sizes_cons hx, sizes_cons hy, List.cons.injEq] at h
      obtain ⟨rfl, hrest⟩ := h
      have hfirst := (Value.same_iff_size? hx).mpr hy
      have htail := ih (fun j hj => hls j (List.mem_cons_of_mem l hj)) (fun j hj => hks j (List.mem_cons_of_mem k hj)) hrest
      simp [Value.sameItems, hfirst, htail]

/-- The line numbers depend only on which lines are given. -/
theorem sameItems_sortedLines {ls ks out out' : List Value} (hls : sortedLines ls = .ok out)
    (hks : sortedLines ks = .ok out') (h : ∀ l, l ∈ ls ↔ l ∈ ks) : Value.sameItems out out' = true := by
  have hsize : ∀ {ls out}, sortedLines ls = .ok out → ∀ l ∈ out, l.size?.isSome = true := by
    intro ls out hs l hl
    obtain ⟨x, hx, -⟩ := isPositive_eq_true.mp (mem_of_mem_sortedLines hs hl).2
    simp [hx]
  refine sameItems_of_sizes (hsize hls) (hsize hks) ?_
  refine List.Pairwise.eq_of_mem_iff (sizes_sortedLines_pairwise hls) (sizes_sortedLines_pairwise hks) ?_
  intro z
  rw [mem_sizes_sortedLines hls, mem_sizes_sortedLines hks]
  simp only [sizes, List.mem_filterMap, h]

/-! ## Lines that are integers -/

theorem eq_of_same_int {n m : Int} (h : (Value.int n).same (.int m) = true) : n = m := by
  have hsame : (Value.int n).same (.int m) = (some (compare n m) == some .eq) := rfl
  rw [hsame, beq_iff_eq, Option.some.injEq, compare_eq_iff_eq] at h
  exact h

section Integers
variable {ls ks out out' : List Value} (hls : sortedLines ls = .ok out) (hks : sortedLines ks = .ok out')
  (hl : ∀ l ∈ ls, ∃ n : Int, l = .int n) (hk : ∀ k ∈ ks, ∃ n : Int, k = .int n)

include hls hl in
theorem mem_sortedLines_int_iff {v : Value} : v ∈ out ↔ v ∈ ls ∧ isPositive v = .ok true := by
  refine ⟨mem_of_mem_sortedLines hls, fun ⟨hv, hpos⟩ => ?_⟩
  obtain ⟨u, hu, hsame⟩ := exists_same_of_mem hls hv hpos
  obtain ⟨n, rfl⟩ := hl v hv
  obtain ⟨m, rfl⟩ := hl u (mem_of_mem_sortedLines hls hu).1
  rwa [eq_of_same_int hsame]

include hls hks hl hk in
theorem sortedLines_int_ext (h : ∀ v, v ∈ out ↔ v ∈ out') : out = out' := by
  have hint : ∀ v ∈ out, ∃ n : Int, v = .int n := fun v hv => hl v (mem_of_mem_sortedLines hls hv).1
  have hint' : ∀ v ∈ out', ∃ n : Int, v = .int n := fun v hv => hk v (mem_of_mem_sortedLines hks hv).1
  have hsizes : sizes out = sizes out' := by
    refine List.Pairwise.eq_of_mem_iff (sizes_sortedLines_pairwise hls) (sizes_sortedLines_pairwise hks) fun z => ?_
    simp only [sizes, List.mem_filterMap, h]
  clear h hls hks
  induction out generalizing out' with
  | nil =>
    cases out' with
    | nil => rfl
    | cons v rest =>
      obtain ⟨m, rfl⟩ := hint' v List.mem_cons_self
      cases hsizes
  | cons u rest ih =>
    obtain ⟨n, rfl⟩ := hint u List.mem_cons_self
    cases out' with
    | nil => cases hsizes
    | cons v rest' =>
      obtain ⟨m, rfl⟩ := hint' v List.mem_cons_self
      obtain ⟨hhead, htail⟩ := List.cons.inj hsizes
      have hnm : n = m := eq_of_same_int ((Value.same_iff_size? rfl).mpr (congrArg some hhead.symm))
      rw [hnm, ih (fun w hw => hint w (List.mem_cons_of_mem _ hw)) (fun w hw => hint' w (List.mem_cons_of_mem _ hw)) htail]

end Integers

end Threat
end ThreatScan
