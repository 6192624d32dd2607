import ThreatScan.Snippet.Reader
/-!
The parts of a source around chosen lines hold exactly the lines around these, and each of them once.

A line behind the end of the source has a range that ends before it begins. Such a range holds no line, but takes part when
ranges are put together: it is in the way of none, because the ranges of different lines have different starts, except for
those that begin with the first line, and these are never reversed (`Follows`, `pairwise_follows_around`). So the parts come
in order, with a line between each of them and the next (`pairwise_joinFrom`), and no line is lost
(`exists_contextRanges_iff`).
-/
namespace ThreatScan.Snippet

namespace LineRange

def Has (r : LineRange) (n : Int) : Prop := r.1 ≤ n ∧ n ≤ r.2

/-- The second range begins behind the first, with at least one line between them. -/
def Before (r r' : LineRange) : Prop := r.1 < r'.1 ∧ r.2 + 1 < r'.1

/-- The second range does not begin before the first, nor together with it if the first is reversed. -/
def Follows (r r' : LineRange) : Prop := r.1 ≤ r'.1 ∧ (r.2 + 1 < r.1 → r.1 < r'.1)

/-- If the two ranges begin together, neither is reversed. -/
def Upright (r r' : LineRange) : Prop := r.1 = r'.1 → r.1 ≤ r.2 + 1 ∧ r'.1 ≤ r'.2 + 1

end LineRange

open LineRange (Before Follows Upright)

theorem mem_numbersIn {r : LineRange} {n : Int} : n ∈ numbersIn r ↔ LineRange.Has r n := by
  unfold numbersIn LineRange.Has
  simp only [List.mem_map, List.mem_range]
  constructor
  · rintro ⟨k, hk, rfl⟩
    omega
  · rintro ⟨hfirst, hlast⟩
    exact ⟨(n - r.1).toNat, by omega, by omega⟩

/-! ## Lines in ranges that are put together -/

/-- Ranges that are put together hold the same lines. -/
theorem exists_joinFrom_iff {first last : Int} {rs : List LineRange} (hfirst : ∀ r ∈ rs, first ≤ r.1)
    (hsorted : rs.Pairwise (·.1 ≤ ·.1)) (n : Int) :
    (∃ r ∈ joinFrom first last rs, LineRange.Has r n) ↔ LineRange.Has (first, last) n ∨ ∃ r ∈ rs, LineRange.Has r n := by
  induction rs generalizing first last with
  | nil => simp [joinFrom]
  | cons r rest ih =>
    obtain ⟨s, e⟩ := r
    obtain ⟨hs, hsorted⟩ := List.pairwise_cons.mp hsorted
    have hle := hfirst (s, e) List.mem_cons_self
    unfold joinFrom
    split
    · next hgap =>
      simp only [List.mem_cons, exists_eq_or_imp, ih hs hsorted]
    · next htouch =>
      -- together the two hold what each of them does, since the second begins at the latest behind the first
      have hboth : LineRange.Has (first, max last e) n ↔ LineRange.Has (first, last) n ∨ LineRange.Has (s, e) n := by
        simp only [LineRange.Has]
        simp only at hle
        omega
      have hrest : ∀ r ∈ rest, first ≤ r.1 := fun r hr => hfirst r (List.mem_cons_of_mem _ hr)
      rw [ih hrest hsorted, hboth]
      simp only [List.mem_cons, exists_eq_or_imp, or_assoc]

theorem pairwise_le_mergeSort (rs : List LineRange) :
    (rs.mergeSort fun a b => decide (a.1 ≤ b.1)).Pairwise (·.1 ≤ ·.1) := by
  have htrans : ∀ a b c : LineRange, decide (a.1 ≤ b.1) = true → decide (b.1 ≤ c.1) = true → decide (a.1 ≤ c.1) = true := by
    simp only [decide_eq_true_eq]
    omega
  have htotal : ∀ a b : LineRange, (decide (a.1 ≤ b.1) || decide (b.1 ≤ a.1)) = true := by
    simp only [Bool.or_eq_true, decide_eq_true_eq]
    omega
  simpa only [decide_eq_true_eq] using List.pairwise_mergeSort htrans htotal rs

/-- The parts of a source hold the lines around the given ones and no others. -/
theorem exists_contextRanges_iff {lines : List Int} {total context : Int} (l : Int) :
    (∃ r ∈ contextRanges lines total context, LineRange.Has r l) ↔
      ∃ n ∈ lines, LineRange.Has (around context total n) l := by
  let sorted := (lines.map (around context total)).mergeSort fun a b => decide (a.1 ≤ b.1)
  have hsorted : sorted.Pairwise (·.1 ≤ ·.1) := pairwise_le_mergeSort _
  have hjoined : (∃ r ∈ joinRanges sorted, LineRange.Has r l) ↔ ∃ r ∈ sorted, LineRange.Has r l := by
    cases hcase : sorted with
    | nil => rfl
    | cons r rest =>
      rw [hcase] at hsorted
      obtain ⟨hfirst, hrest⟩ := List.pairwise_cons.mp hsorted
      simp only [joinRanges, exists_joinFrom_iff hfirst hrest, List.mem_cons, exists_eq_or_imp]
  have hmem : ∀ r, r ∈ sorted ↔ ∃ n ∈ lines, around context total n = r := fun r => by
    rw [List.mem_mergeSort, List.mem_map]
  rw [contextRanges, hjoined]
  simp only [hmem]
  constructor
  · rintro ⟨r, ⟨n, hn, rfl⟩, hl⟩
    exact ⟨n, hn, hl⟩
  · rintro ⟨n, hn, hl⟩
    exact ⟨_, ⟨n, hn, rfl⟩, hl⟩

/-- Around a given line its part has the line itself, as long as the source does. -/
theorem exists_range_iff {lines : List Int} {n total context : Int} (hn : n ∈ lines) (hc : 0 ≤ context) :
    (∃ r ∈ contextRanges lines total context, LineRange.Has r n) ↔ 1 ≤ n ∧ n ≤ total := by
  rw [exists_contextRanges_iff]
  constructor
  · rintro ⟨line, -, hline⟩
    simp only [LineRange.Has, around] at hline
    omega
  · rintro ⟨hfirst, hlast⟩
    refine ⟨n, hn, ?_⟩
    simp only [LineRange.Has, around]
    omega

/-! ## The order of the parts -/

/-- Every part begins where one of the ranges does. -/
theorem exists_start_of_mem_joinFrom {first last : Int} {rs : List LineRange} {r : LineRange} (hr : r ∈ joinFrom first last rs) :
    r.1 = first ∨ ∃ r' ∈ rs, r.1 = r'.1 := by
  induction rs generalizing first last with
  | nil => exact .inl (congrArg Prod.fst (List.mem_singleton.mp hr))
  | cons next rest ih =>
    obtain ⟨s, e⟩ := next
    unfold joinFrom at hr
    split at hr
    · rcases List.mem_cons.mp hr with rfl | hr
      · exact .inl rfl
      · rcases ih hr with hstart | ⟨r', hr', hstart⟩
        · exact .inr ⟨(s, e), List.mem_cons_self, hstart⟩
        · exact .inr ⟨r', List.mem_cons_of_mem _ hr', hstart⟩
    · exact (ih hr).imp_right fun ⟨r', hr', hstart⟩ => ⟨r', List.mem_cons_of_mem _ hr', hstart⟩

theorem pairwise_joinFrom {first last : Int} {rs : List LineRange} (h : ((first, last) :: rs).Pairwise Follows) :
    (joinFrom first last rs).Pairwise Before := by
  induction rs generalizing first last with
  | nil => exact List.pairwise_singleton _ _
  | cons next rest ih =>
    obtain ⟨s, e⟩ := next
    obtain ⟨hfirst, hnext⟩ := List.pairwise_cons.mp h
    obtain ⟨hrest, hothers⟩ := List.pairwise_cons.mp hnext
    have hs := hfirst (s, e) List.mem_cons_self
    simp only [Follows] at hs
    unfold joinFrom
    split
    · next hgap =>
      refine List.pairwise_cons.mpr ⟨fun r hr => ?_, ih hnext⟩
      have hstart : s ≤ r.1 := by
        rcases exists_start_of_mem_joinFrom hr with hr | ⟨r', hr', hr⟩
        · exact Int.le_of_eq hr.symm
        · exact hr ▸ (hrest r' hr').1
      simp only [Before]
      omega
    · next htouch =>
      -- a range that is reversed even after it was put together was so before
      refine ih (List.pairwise_cons.mpr ⟨fun r hr => ?_, hothers⟩)
      have hr := hfirst r (List.mem_cons_of_mem _ hr)
      simp only [Follows] at hr ⊢
      omega

theorem pairwise_joinRanges {rs : List LineRange} (h : rs.Pairwise Follows) : (joinRanges rs).Pairwise Before := by
  cases rs with
  | nil => exact List.Pairwise.nil
  | cons r rest => exact pairwise_joinFrom h

/-- Two ranges around different lines can begin together only with the first line, and then neither is reversed. -/
theorem pairwise_follows_around {lines : List Int} {total context : Int} (hpos : ∀ n ∈ lines, 0 < n) (hnodup : lines.Nodup)
    (htotal : 0 ≤ total) (hcontext : 0 ≤ context) :
    ((lines.map (around context total)).mergeSort fun a b => decide (a.1 ≤ b.1)).Pairwise Follows := by
  have hupright : (lines.map (around context total)).Pairwise Upright := by
    refine List.pairwise_map.mpr (hnodup.imp_of_mem fun {n m} hn hm hne => ?_)
    have hn := hpos n hn
    have hm := hpos m hm
    simp only [Upright, around]
    omega
  have hswap : ∀ {r r' : LineRange}, Upright r r' → Upright r' r := fun h hsame => (h hsame.symm).symm
  have hsorted := ((List.mergeSort_perm (lines.map (around context total)) fun a b => decide (a.1 ≤ b.1)).pairwise_iff
    hswap).mpr hupright
  refine (hsorted.and (pairwise_le_mergeSort _)).imp fun {r r'} h => ?_
  obtain ⟨hup, hle⟩ := h
  simp only [Upright, Follows] at hup ⊢
  omega

/-! ## The lines that are shown -/

theorem pairwise_numbersIn (r : LineRange) : (numbersIn r).Pairwise (· < ·) := by
  refine List.pairwise_map.mpr (List.pairwise_lt_range.imp fun {i j} hij => ?_)
  omega

theorem pairwise_flatMap_numbersIn {rs : List LineRange} (h : rs.Pairwise Before) : (rs.flatMap numbersIn).Pairwise (· < ·) := by
  refine List.pairwise_flatMap.mpr ⟨fun r _ => pairwise_numbersIn r, h.imp fun {r r'} hrr' l hl l' hl' => ?_⟩
  have hl := (mem_numbersIn.mp hl).2
  have hl' := (mem_numbersIn.mp hl').1
  have hgap := hrr'.2
  omega

/-- The parts of a source around different lines come in order, each behind the end of the one before it with a line between
them. A line is in one of them exactly if it is near a given line, and within the source. So the lines that are shown are in
order too, and none is shown twice. -/
theorem contextRanges_exact (lines : List Int) (total context : Int) (hpos : ∀ n ∈ lines, 0 < n) (hnodup : lines.Nodup)
    (htotal : 0 ≤ total) (hcontext : 0 ≤ context) :
    (contextRanges lines total context).Pairwise Before ∧
      (∀ l, (∃ r ∈ contextRanges lines total context, LineRange.Has r l) ↔
        ∃ n ∈ lines, max 1 (n - context) ≤ l ∧ l ≤ min total (n + context)) ∧
      ((contextRanges lines total context).flatMap numbersIn).Pairwise (· < ·) := by
  have horder := pairwise_joinRanges (pairwise_follows_around hpos hnodup htotal hcontext)
  exact ⟨horder, exists_contextRanges_iff, pairwise_flatMap_numbersIn horder⟩

/-- The last two of the lines are behind the end of the source: one of them brings the last line along, the other none. -/
theorem contextRanges_past_end :
    contextRanges [20, 3, 5, 12, 1] 11 1 = [(1, 6), (11, 11), (19, 11)] ∧
      ([(1, 6), (11, 11), (19, 11)] : List LineRange).flatMap numbersIn = [1, 2, 3, 4, 5, 6, 11] ∧
      ((contextRanges [20, 3, 5, 12, 1] 11 1).flatMap numbersIn).Pairwise (· < ·) := by
  have haround : [20, 3, 5, 12, 1].map (around 1 11) = [(19, 11), (2, 4), (4, 6), (11, 11), (1, 2)] := by decide
  have hsorted : ([(19, 11), (2, 4), (4, 6), (11, 11), (1, 2)] : List LineRange).mergeSort (fun a b => decide (a.1 ≤ b.1)) =
      [(1, 2), (2, 4), (4, 6), (11, 11), (19, 11)] := by
    simp [List.mergeSort, List.MergeSort.Internal.splitInTwo]
  have hranges : contextRanges [20, 3, 5, 12, 1] 11 1 = [(1, 6), (11, 11), (19, 11)] := by
    rw [contextRanges, haround, hsorted]
    rfl
  have hexact := contextRanges_exact [20, 3, 5, 12, 1] 11 1 (by decide) (by decide) (by decide) (by decide)
  exact ⟨hranges, by decide, hexact.2.2⟩

end ThreatScan.Snippet
