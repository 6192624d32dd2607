import Mathlib.Data.List.Perm.Basic
import Mathlib.Data.List.Sort
import ThreatScan.Proofs.Snippet.Dividers
/-!
The order of threats, and of the lines that each of them lists, has no say in what the reader shows.

Line numbers can fail in one way only, so threats in another order fail alike, or list the same lines with the same marks in
another order (`agree_listedByAll`). The reader takes the marked lines in their own order, and of the marks of a line it
takes the highest severity and the kinds in order without repetition. Both are the same for marks in another order
(`Alike.addAll`), so the markup is (`Alike.markup_eq`).

The highest severity of a line is that of a threat that lists it, and no such threat has a higher one; if all have severities
that are none of the four words, it is the lowest of the words (`isHighest_highest`).
-/
namespace ThreatScan.Snippet

open Checked (Agree)

/-- A threat with texts as its kind and its severity, and the values that it lists as line numbers. -/
structure Tells (threat : Value) (kind severity : String) (numbers : List Value) : Prop where
  kind_eq : threat.get "threat_type" (.str "未知") = .ok (.str kind)
  severity_eq : threat.get "severity" (.str "medium") = .ok (.str severity)
  numbers_eq : numbersOf threat = .ok numbers

/-- The threats say the same, but for the order of the line numbers. -/
def SameButOrder (t t' : Value) : Prop :=
  ∃ kind severity numbers numbers', Tells t kind severity numbers ∧ Tells t' kind severity numbers' ∧ numbers.Perm numbers'

/-- The same threats in another order, each with its line numbers in another order. -/
def Reordered (ts ts' : List Value) : Prop := ∃ us, ts.Perm us ∧ List.Forall₂ SameButOrder us ts'

structure Leaves (threat : Value) (n : Int) (m : Mark) : Prop where
  pos : 0 < n
  listed : ∃ numbers, numbersOf threat = .ok numbers ∧ ∃ v ∈ numbers, lineNumber? v = .ok (some n)
  severity_eq : threat.get "severity" (.str "medium") = .ok m.severity
  kind_eq : threat.get "threat_type" (.str "未知") = .ok m.kind

/-! ## Listed lines -/

section Listed
variable {t t' : Value} {ts ts' : List Value} {listed : List (Int × Mark)} {e : Fault}

theorem lineNumber?_eq_error {v : Value} (h : lineNumber? v = .error e) : e = .infinite := by
  unfold lineNumber? at h
  split at h <;> cases h
  rfl

theorem listedBy_of_tells {kind severity : String} {numbers : List Value} (h : Tells t kind severity numbers) :
    listedBy t = do
      let ns ← numbers.mapM lineNumber?
      return (ns.filterMap fun n => n.filter (0 < ·)).map fun n => (n, ⟨.str kind, .str severity⟩) := by
  rw [listedBy, h.severity_eq, h.kind_eq, h.numbers_eq]
  rfl

theorem listedBy_eq_error (h : SameButOrder t t') (hfails : listedBy t = .error e) : e = .infinite := by
  obtain ⟨kind, severity, numbers, -, htells, -⟩ := h
  rw [listedBy_of_tells htells] at hfails
  cases hns : numbers.mapM lineNumber? with
  | error e' =>
    rw [hns] at hfails
    cases hfails
    obtain ⟨v, -, hv⟩ := Checked.exists_of_mapM_eq_error hns
    exact lineNumber?_eq_error hv
  | ok ns =>
    rw [hns] at hfails
    cases hfails

theorem agree_listedBy (h : SameButOrder t t') : Agree List.Perm (listedBy t) (listedBy t') := by
  obtain ⟨kind, severity, numbers, numbers', htells, htells', hperm⟩ := h
  rw [listedBy_of_tells htells, listedBy_of_tells htells']
  refine Agree.bind' (Agree.mapM_perm hperm fun v _ e => lineNumber?_eq_error) fun ns ns' hns => Agree.pure' ?_
  exact (hns.filterMap _).map _

/-- Reordered threats fail alike, or list the same lines with the same marks. -/
theorem agree_listedByAll (h : Reordered ts ts') : Agree List.Perm (listedByAll ts) (listedByAll ts') := by
  obtain ⟨us, hperm, hsame⟩ := h
  have hfails : ∀ t ∈ ts, ∀ e, listedBy t = .error e → e = .infinite := by
    intro t ht e
    obtain ⟨t', -, htt'⟩ := exists_right_of_forall₂ hsame (hperm.mem_iff.mp ht)
    exact listedBy_eq_error htt'
  have hfirst : Agree List.Perm (ts.mapM listedBy) (us.mapM listedBy) := Agree.mapM_perm hperm hfails
  have hsecond : Agree (List.Forall₂ List.Perm) (us.mapM listedBy) (ts'.mapM listedBy) :=
    Agree.mapM hsame fun _ _ => agree_listedBy
  unfold listedByAll
  refine Agree.bind' (hfirst.trans hsecond fun a b c hab hbc => ?_) fun a b hab => Agree.pure' hab
  exact hab.flatten.trans (List.Perm.flatten_congr hbc)

theorem mem_listedBy (h : listedBy t = .ok listed) (x : Int × Mark) : x ∈ listed ↔ Leaves t x.1 x.2 := by
  obtain ⟨severity, hseverity, h⟩ := Checked.bind_eq_ok.mp h
  obtain ⟨kind, hkind, h⟩ := Checked.bind_eq_ok.mp h
  obtain ⟨numbers, hnumbers, h⟩ := Checked.bind_eq_ok.mp h
  obtain ⟨ns, hns, h⟩ := Checked.bind_eq_ok.mp h
  rw [← Checked.pure_eq_ok.mp h]
  simp only [List.mem_map, List.mem_filterMap, Option.filter_eq_some_iff, decide_eq_true_eq]
  constructor
  · rintro ⟨n, ⟨_, hn, rfl, hpos⟩, rfl⟩
    exact ⟨hpos, ⟨numbers, hnumbers, (Checked.mem_iff_of_mapM_eq_ok hns _).mp hn⟩, hseverity, hkind⟩
  · rintro ⟨hpos, ⟨numbers', hnumbers', hlisted⟩, hseverity', hkind'⟩
    cases hnumbers.symm.trans hnumbers'
    refine ⟨x.1, ⟨some x.1, (Checked.mem_iff_of_mapM_eq_ok hns _).mpr hlisted, rfl, hpos⟩, ?_⟩
    rw [Except.ok.inj (hseverity.symm.trans hseverity'), Except.ok.inj (hkind.symm.trans hkind')]

theorem mem_listedByAll (h : listedByAll ts = .ok listed) (x : Int × Mark) : x ∈ listed ↔ ∃ t ∈ ts, Leaves t x.1 x.2 := by
  obtain ⟨ls, hls, h⟩ := Checked.bind_eq_ok.mp h
  rw [← Checked.pure_eq_ok.mp h, List.mem_flatten]
  constructor
  · rintro ⟨l, hl, hx⟩
    obtain ⟨t, ht, hlisted⟩ := (Checked.mem_iff_of_mapM_eq_ok hls l).mp hl
    exact ⟨t, ht, (mem_listedBy hlisted x).mp hx⟩
  · rintro ⟨t, ht, hx⟩
    obtain ⟨l, hlisted⟩ := Checked.exists_of_mapM_eq_ok hls ht
    exact ⟨l, (Checked.mem_iff_of_mapM_eq_ok hls l).mpr ⟨t, ht, hlisted⟩, (mem_listedBy hlisted x).mpr hx⟩

end Listed

/-! ## Marks of a line -/

def marksOn (listed : List (Int × Mark)) (n : Int) : List Mark := (listed.filter (·.1 = n)).map Prod.snd

namespace LineMarks

theorem get?_add (marks : LineMarks) (line : Int) (m : Mark) (n : Int) :
    (marks.add line m).get? n = if line = n then some ((marks.get? n).getD [] ++ [m]) else marks.get? n := by
  induction marks with
  | nil => simp [add, get?]
  | cons a rest ih =>
    obtain ⟨k, ms⟩ := a
    by_cases hk : k = line
    · subst hk
      by_cases hn : k = n <;> simp [add, get?, hn]
    · by_cases hn : k = n
      · subst hn
        simp [add, get?, hk, Ne.symm hk]
      · simp [add, get?, hk, hn, ih]

theorem mem_lines_iff (marks : LineMarks) (n : Int) : n ∈ marks.lines ↔ marks.get? n ≠ none := by
  induction marks with
  | nil => simp [lines, get?]
  | cons a rest ih =>
    obtain ⟨k, ms⟩ := a
    by_cases hn : k = n
    · simp [lines, get?, hn]
    · simpa [lines, get?, hn, Ne.symm hn] using ih

theorem lines_add (marks : LineMarks) (line : Int) (m : Mark) :
    (marks.add line m).lines = if line ∈ marks.lines then marks.lines else marks.lines ++ [line] := by
  induction marks with
  | nil => rfl
  | cons a rest ih =>
    obtain ⟨k, ms⟩ := a
    have hcons : ∀ (ms : List Mark) (marks : LineMarks), lines ((k, ms) :: marks) = k :: lines marks := fun _ _ => rfl
    rw [add, hcons]
    by_cases hk : k = line
    · rw [if_pos hk, hcons, if_pos (hk ▸ List.mem_cons_self)]
    · rw [if_neg hk, hcons, ih]
      by_cases hmem : line ∈ lines rest
      · rw [if_pos hmem, if_pos (List.mem_cons_of_mem k hmem)]
      · rw [if_neg hmem, if_neg (List.not_mem_cons_of_ne_of_not_mem (Ne.symm hk) hmem), List.cons_append]

theorem addAll_concat (marks : LineMarks) (listed : List (Int × Mark)) (x : Int × Mark) :
    marks.addAll (listed ++ [x]) = (marks.addAll listed).add x.1 x.2 := by
  simp [addAll]

theorem nodup_lines_addAll (listed : List (Int × Mark)) : (addAll [] listed).lines.Nodup := by
  induction listed using List.reverseRecOn with
  | nil => exact List.nodup_nil
  | append_singleton listed x ih =>
    rw [addAll_concat, lines_add]
    split
    · exact ih
    · next hnew => exact ih.append (List.nodup_singleton x.1) (List.disjoint_singleton.mpr hnew)

/-- A line has the marks that are listed for it, in order. -/
theorem get?_addAll (listed : List (Int × Mark)) (n : Int) :
    (addAll [] listed).get? n = if marksOn listed n = [] then none else some (marksOn listed n) := by
  induction listed using List.reverseRecOn with
  | nil => rfl
  | append_singleton listed x ih =>
    have hmarks : marksOn (listed ++ [x]) n = marksOn listed n ++ if x.1 = n then [x.2] else [] := by
      by_cases hx : x.1 = n <;> simp [marksOn, hx]
    rw [addAll_concat, get?_add, ih, hmarks]
    by_cases hx : x.1 = n
    · by_cases hnone : marksOn listed n = [] <;> simp [hx, hnone]
    · simp [hx]

theorem mem_lines_addAll {listed : List (Int × Mark)} {n : Int} : n ∈ (addAll [] listed).lines ↔ marksOn listed n ≠ [] := by
  rw [mem_lines_iff, get?_addAll]
  split <;> simp [*]

end LineMarks

theorem mem_marksOn {listed : List (Int × Mark)} {n : Int} {m : Mark} : m ∈ marksOn listed n ↔ (n, m) ∈ listed := by
  simp [marksOn]

/-! ## The highest severity -/

theorem foldl_max_spec (ranks : List Nat) (r : Nat) :
    (∀ k ∈ ranks, k ≤ ranks.foldl max r) ∧ r ≤ ranks.foldl max r ∧ (ranks.foldl max r = r ∨ ranks.foldl max r ∈ ranks) := by
  induction ranks generalizing r with
  | nil => simp
  | cons k rest ih =>
    obtain ⟨hall, hstart, hone⟩ := ih (max r k)
    rw [List.foldl_cons]
    refine ⟨List.forall_mem_cons.mpr ⟨by omega, hall⟩, by omega, ?_⟩
    rcases hone with hsame | hmem
    · by_cases hk : k ≤ r
      · exact .inl (by omega)
      · exact .inr (List.mem_cons.mpr (.inl (by omega)))
    · exact .inr (List.mem_cons_of_mem k hmem)

def rankWords : List String := ["critical", "high", "medium", "low"]

theorem rank_eq_zero_or (v : Value) : rank v = 0 ∨ ∃ word ∈ rankWords, v = .str word ∧ rankWord (rank v) = word := by
  unfold rank
  split <;> simp [rankWord, rankWords]

theorem highest_mem_rankWords (ms : List Mark) : highest ms ∈ rankWords := by
  unfold highest rankWord
  split <;> simp [rankWords]

/-- The severity of one of the marks, or the lowest word if the severities are none of the words. -/
theorem highest_attained (ms : List Mark) :
    (∃ m ∈ ms, m.severity = .str (highest ms)) ∨ highest ms = "low" ∧ ∀ m ∈ ms, rank m.severity = 0 := by
  obtain ⟨hall, -, hone⟩ := foldl_max_spec (ms.map fun m => rank m.severity) 0
  have hranks : ∀ m ∈ ms, rank m.severity ≤ (ms.map fun m => rank m.severity).foldl max 0 :=
    fun m hm => hall _ (List.mem_map_of_mem hm)
  unfold highest
  generalize (ms.map fun m => rank m.severity).foldl max 0 = top at hone hranks
  by_cases htop : top = 0
  · right
    subst htop
    exact ⟨rfl, fun m hm => Nat.le_zero.mp (hranks m hm)⟩
  · left
    obtain ⟨m, hm, rfl⟩ := List.mem_map.mp (hone.resolve_left htop)
    obtain ⟨word, -, hseverity, hword⟩ := (rank_eq_zero_or m.severity).resolve_left htop
    exact ⟨m, hm, hword ▸ hseverity⟩

theorem rank_le_highest {ms : List Mark} {m : Mark} (hm : m ∈ ms) : rank m.severity ≤ rank (.str (highest ms)) := by
  have hfour : ∀ v : Value, rank v ≤ 4 := fun v => by unfold rank; split <;> decide
  have hword : ∀ k ≤ 4, k ≤ rank (.str (rankWord k)) := by decide
  obtain ⟨hall, -, hone⟩ := foldl_max_spec (ms.map fun m => rank m.severity) 0
  have htop : (ms.map fun m => rank m.severity).foldl max 0 ≤ 4 := by
    rcases hone with hzero | hmem
    · omega
    · obtain ⟨top, -, htop⟩ := List.mem_map.mp hmem
      exact htop ▸ hfour top.severity
  exact (hall _ (List.mem_map_of_mem hm)).trans (hword _ htop)

theorem highest_perm {ms ms' : List Mark} (h : ms.Perm ms') : highest ms = highest ms' := by
  unfold highest
  rw [(h.map _).foldl_eq]

/-! ## The start of a line -/

def highlighted (severity : String) (kinds : List String) : String :=
  "<div class=\"doc-line threat-" ++ severity ++ "\" title=\"威胁: " ++ Markup.escape (Text.join ", " kinds) ++ "\">"

theorem str_mem_distinct {t : String} {vs : List Value} (hvs : ∀ v ∈ vs, ∃ s, v = .str s) : .str t ∈ distinct vs ↔ .str t ∈ vs := by
  refine ⟨mem_of_mem_distinct, fun h => ?_⟩
  induction vs with
  | nil => exact h
  | cons v rest ih =>
    obtain ⟨s, rfl⟩ := hvs v List.mem_cons_self
    rw [distinct]
    by_cases hst : s = t
    · exact hst ▸ List.mem_cons_self
    · have hrest : .str t ∈ rest := (List.mem_cons.mp h).resolve_left fun heq => hst (Value.str.inj heq).symm
      have hdiffers : (Value.str s).same (.str t) = false := by rw [Value.same]; exact beq_false_of_ne hst
      have hmem := ih (fun w hw => hvs w (List.mem_cons_of_mem _ hw)) hrest
      exact List.mem_cons_of_mem _ (List.mem_filter.mpr ⟨hmem, by rw [hdiffers]; rfl⟩)

theorem mem_of_mapM_text? {vs : List Value} {texts : List String} (h : vs.mapM Value.text? = some texts) (t : String) :
    t ∈ texts ↔ .str t ∈ vs := by
  induction vs generalizing texts with
  | nil => cases h; simp
  | cons v rest ih =>
    rw [List.mapM_cons] at h
    obtain ⟨s, hs, h⟩ := Option.bind_eq_some_iff.mp h
    obtain ⟨ts, hts, h⟩ := Option.bind_eq_some_iff.mp h
    cases h
    obtain rfl : v = .str s := by cases v <;> cases hs; rfl
    rw [List.mem_cons, List.mem_cons, ih hts]
    simp

/-- A marked line starts with the highest severity, and with the kinds in order and without repetition. -/
theorem exists_lineStart_eq {ms : List Mark} (h : ∀ m ∈ ms, m.Printable) :
    ∃ kinds, lineStart (some ms) = .ok (highlighted (highest ms) kinds) ∧ kinds.Pairwise (· < ·) ∧
      ∀ k, k ∈ kinds ↔ ∃ m ∈ ms, m.kind = .str k := by
  have hkinds : ∀ v ∈ ms.map Mark.kind, ∃ s, v = .str s := List.forall_mem_map.mpr fun m hm => (h m hm).2
  obtain ⟨texts, htexts, hlist⟩ := exists_kindList_eq fun m hm => (h m hm).2
  refine ⟨Text.sortedTexts texts, ?_, Text.pairwise_sortedTexts texts, fun k => ?_⟩
  · simp only [lineStart, hashableItems_severities h, hlist, Checked.ok_bind]
    rfl
  · rw [Text.mem_sortedTexts, mem_of_mapM_text? htexts, str_mem_distinct hkinds, List.mem_map]

theorem lineStart_perm {ms ms' : List Mark} (hperm : ms.Perm ms') (h : ∀ m ∈ ms, m.Printable) :
    lineStart (some ms) = lineStart (some ms') := by
  obtain ⟨kinds, hstart, hsorted, hmem⟩ := exists_lineStart_eq h
  obtain ⟨kinds', hstart', hsorted', hmem'⟩ := exists_lineStart_eq fun m hm => h m (hperm.mem_iff.mpr hm)
  have hkinds : kinds = kinds' := hsorted.eq_of_mem_iff hsorted' fun k => by simp only [hmem, hmem', hperm.mem_iff]
  rw [hstart, hstart', highest_perm hperm, hkinds]

/-! ## The markup -/

theorem mergeSort_eq_of_perm {l l' : List Int} (h : l.Perm l') :
    (l.mergeSort fun a b => decide (a ≤ b)) = l'.mergeSort fun a b => decide (a ≤ b) := by
  refine List.Perm.eq_of_pairwise' (List.pairwise_mergeSort' (· ≤ ·) l) (List.pairwise_mergeSort' (· ≤ ·) l') ?_
  exact (List.mergeSort_perm l _).trans (h.trans (List.mergeSort_perm l' _).symm)

structure Alike (marks marks' : LineMarks) : Prop where
  lines_eq : (marks.lines.mergeSort fun a b => decide (a ≤ b)) = marks'.lines.mergeSort fun a b => decide (a ≤ b)
  start_eq : ∀ n, lineStart (marks.get? n) = lineStart (marks'.get? n)

namespace Alike
variable {marks marks' : LineMarks}

theorem snippetsFrom_eq (h : Alike marks marks') (lines : List String) (n : Nat) (ranges : List LineRange) :
    snippetsFrom lines marks n ranges = snippetsFrom lines marks' n ranges := by
  have hline : lineMarkup lines marks = lineMarkup lines marks' := funext fun n => by rw [lineMarkup, lineMarkup, h.start_eq]
  induction ranges generalizing n with
  | nil => rfl
  | cons r rest ih => rw [snippetsFrom, snippetsFrom, snippetMarkup, snippetMarkup, hline, ih]

theorem markup_eq (h : Alike marks marks') (lines : List String) (context limit : Int) :
    markup lines marks context limit = markup lines marks' context limit := by
  rw [markup, markup, h.lines_eq]
  simp only [h.snippetsFrom_eq]

theorem isEmpty_eq (h : Alike marks marks') : marks.isEmpty = marks'.isEmpty := by
  have hlength := congrArg List.length h.lines_eq
  simp only [List.length_mergeSort, LineMarks.lines, List.length_map] at hlength
  rw [Bool.eq_iff_iff, List.isEmpty_iff_length_eq_zero, List.isEmpty_iff_length_eq_zero, hlength]

theorem addAll {listed listed' : List (Int × Mark)} (hperm : listed.Perm listed') (hprintable : ∀ x ∈ listed, x.2.Printable) :
    Alike (LineMarks.addAll [] listed) (LineMarks.addAll [] listed') := by
  have hmarks : ∀ n, (marksOn listed n).Perm (marksOn listed' n) := fun n => (hperm.filter _).map _
  have hnone : ∀ n, marksOn listed n = [] ↔ marksOn listed' n = [] := fun n => by
    rw [← List.length_eq_zero_iff, (hmarks n).length_eq, List.length_eq_zero_iff]
  constructor
  · have hlines : (LineMarks.addAll [] listed).lines.Perm (LineMarks.addAll [] listed').lines := by
      refine (List.perm_ext_iff_of_nodup (LineMarks.nodup_lines_addAll _) (LineMarks.nodup_lines_addAll _)).mpr fun n => ?_
      rw [LineMarks.mem_lines_addAll, LineMarks.mem_lines_addAll, Ne, hnone]
    exact mergeSort_eq_of_perm hlines
  · intro n
    rw [LineMarks.get?_addAll, LineMarks.get?_addAll]
    by_cases hn : marksOn listed n = []
    · rw [if_pos hn, if_pos ((hnone n).mp hn)]
    · rw [if_neg hn, if_neg (mt (hnone n).mpr hn)]
      exact lineStart_perm (hmarks n) fun m hm => hprintable (n, m) (mem_marksOn.mp hm)

end Alike

/-! ## Readings -/

section Reading
variable {threats threats' : List Value} {listed : List (Int × Mark)}

/-- The severity is the highest of the line. Severities that are none of the words count below them, and if there are no
others, the severity is the lowest word. -/
structure IsHighest (threats : List Value) (n : Int) (severity : String) : Prop where
  word : severity ∈ rankWords
  above : ∀ t ∈ threats, ∀ m, Leaves t n m → rank m.severity ≤ rank (.str severity)
  attained : (∃ t ∈ threats, ∃ m, Leaves t n m ∧ m.severity = .str severity) ∨
    severity = "low" ∧ ∀ t ∈ threats, ∀ m, Leaves t n m → rank m.severity = 0

/-- The lines that threats list, and no others, are marked. In the markup a marked line starts with the highest severity of
the threats that list it and with their kinds, in order and without repetition. -/
structure Highlights (threats : List Value) (lines : List String) (marks : LineMarks) : Prop where
  marked : ∀ n, n ∈ marks.lines ↔ ∃ t ∈ threats, ∃ m, Leaves t n m
  highlighted : ∀ n ∈ marks.lines, ∃ severity kinds rest,
    lineMarkup lines marks n = .ok (highlighted severity kinds ++ rest) ∧ IsHighest threats n severity ∧
      kinds.Pairwise (· < ·) ∧ ∀ k, k ∈ kinds ↔ ∃ t ∈ threats, ∃ m, Leaves t n m ∧ m.kind = .str k
  plain : ∀ n, n ∉ marks.lines → ∃ rest, lineMarkup lines marks n = .ok ("<div class=\"doc-line\">" ++ rest)

theorem isHighest_highest (h : listedByAll threats = .ok listed) (n : Int) :
    IsHighest threats n (highest (marksOn listed n)) := by
  have hmem : ∀ m, m ∈ marksOn listed n ↔ ∃ t ∈ threats, Leaves t n m := fun m =>
    mem_marksOn.trans (mem_listedByAll h (n, m))
  refine ⟨highest_mem_rankWords _, fun t ht m hm => rank_le_highest ((hmem m).mpr ⟨t, ht, hm⟩), ?_⟩
  rcases highest_attained (marksOn listed n) with ⟨m, hm, hseverity⟩ | ⟨hlow, hzero⟩
  · obtain ⟨t, ht, hleaves⟩ := (hmem m).mp hm
    exact .inl ⟨t, ht, m, hleaves, hseverity⟩
  · exact .inr ⟨hlow, fun t ht m hm => hzero m ((hmem m).mpr ⟨t, ht, hm⟩)⟩

theorem exists_lineMarkup {marks : LineMarks} {n : Int} {start : String} (lines : List String)
    (h : lineStart (marks.get? n) = .ok start) : ∃ rest, lineMarkup lines marks n = .ok (start ++ rest) := by
  simp only [lineMarkup, h, Checked.ok_bind, String.append_assoc]
  exact ⟨_, rfl⟩

theorem highlights_addAll (h : listedByAll threats = .ok listed) (hprintable : ∀ x ∈ listed, x.2.Printable)
    (lines : List String) : Highlights threats lines (LineMarks.addAll [] listed) := by
  have hmem : ∀ n m, m ∈ marksOn listed n ↔ ∃ t ∈ threats, Leaves t n m := fun n m =>
    mem_marksOn.trans (mem_listedByAll h (n, m))
  refine ⟨fun n => ?_, fun n hn => ?_, fun n hn => ?_⟩
  · rw [LineMarks.mem_lines_addAll, Ne, List.eq_nil_iff_forall_not_mem]
    simp only [hmem, not_forall, not_not]
    exact ⟨fun ⟨m, t, ht, hm⟩ => ⟨t, ht, m, hm⟩, fun ⟨t, ht, m, hm⟩ => ⟨m, t, ht, hm⟩⟩
  · have hne := LineMarks.mem_lines_addAll.mp hn
    obtain ⟨kinds, hstart, hsorted, hkinds⟩ := exists_lineStart_eq fun m hm => hprintable (n, m) (mem_marksOn.mp hm)
    have hget : (LineMarks.addAll [] listed).get? n = some (marksOn listed n) := by rw [LineMarks.get?_addAll, if_neg hne]
    rw [← hget] at hstart
    obtain ⟨rest, hrest⟩ := exists_lineMarkup lines hstart
    refine ⟨_, kinds, rest, hrest, isHighest_highest h n, hsorted, fun k => ?_⟩
    simp only [hkinds, hmem]
    exact ⟨fun ⟨m, ⟨t, ht, hm⟩, hk⟩ => ⟨t, ht, m, hm, hk⟩, fun ⟨t, ht, m, hm, hk⟩ => ⟨m, ⟨t, ht, hm⟩, hk⟩⟩
  · have hnone := not_not.mp (mt LineMarks.mem_lines_addAll.mpr hn)
    refine exists_lineMarkup lines ?_
    rw [LineMarks.get?_addAll, if_pos hnone]
    rfl

theorem printable_of_tells (htells : ∀ t ∈ threats, ∃ kind severity numbers, Tells t kind severity numbers)
    (h : listedByAll threats = .ok listed) : ∀ x ∈ listed, x.2.Printable := by
  intro x hx
  obtain ⟨t, ht, hleaves⟩ := (mem_listedByAll h x).mp hx
  obtain ⟨kind, severity, _, htells⟩ := htells t ht
  have hseverity : Value.str severity = x.2.severity := Except.ok.inj (htells.severity_eq.symm.trans hleaves.severity_eq)
  have hkind : Value.str kind = x.2.kind := Except.ok.inj (htells.kind_eq.symm.trans hleaves.kind_eq)
  exact ⟨hseverity ▸ rfl, kind, hkind.symm⟩

theorem Reordered.tells (h : Reordered threats threats') : ∀ t ∈ threats, ∃ kind severity numbers, Tells t kind severity numbers := by
  intro t ht
  obtain ⟨us, hperm, hsame⟩ := h
  obtain ⟨t', -, kind, severity, numbers, -, htells, -⟩ := exists_right_of_forall₂ hsame (hperm.mem_iff.mp ht)
  exact ⟨kind, severity, numbers, htells⟩

theorem Reordered.length_eq (h : Reordered threats threats') : threats.length = threats'.length := by
  obtain ⟨us, hperm, hsame⟩ := h
  exact hperm.length_eq.trans hsame.length_eq

/-- Reordered threats fail alike, or mark lines alike. -/
theorem Reordered.agree_ofThreats (h : Reordered threats threats') :
    Agree Alike (LineMarks.ofThreats threats) (LineMarks.ofThreats threats') := by
  have hagree := agree_listedByAll h
  rw [ofThreats_eq, ofThreats_eq]
  cases hl : listedByAll threats with
  | error e =>
    rw [(hagree.error_iff e).mp hl]
    exact rfl
  | ok listed =>
    obtain ⟨listed', hl', hperm⟩ := hagree.exists_ok hl
    rw [hl']
    exact Alike.addAll hperm (printable_of_tells h.tells hl)

theorem read_eq_of_agree (source : String) (hlength : threats.length = threats'.length)
    (h : Agree Alike (LineMarks.ofThreats threats) (LineMarks.ofThreats threats')) (context limit : Int) :
    read (.str source) (.list threats) context limit = read (.str source) (.list threats') context limit := by
  have htruthy : Value.truthy (.list threats) = Value.truthy (.list threats') := by
    cases threats <;> cases threats' <;> first | rfl | cases hlength
  unfold read
  rw [htruthy]
  by_cases hs : Value.truthy (.str source) = true
  · by_cases ht : Value.truthy (.list threats') = true
    · simp only [hs, ht, Value.text, Value.items, Checked.ok_bind]
      refine Agree.eq (Agree.bind' h fun marks marks' hm => ?_)
      rw [hm.isEmpty_eq, hm.markup_eq]
      exact Agree.refl (fun _ => rfl) _
    · simp only [hs, ht]
      rfl
  · simp only [hs]
    rfl

theorem exists_listed_of_read {source html : String} {context limit : Int}
    (h : read (.str source) (.list threats) context limit = .ok (.markup html)) :
    ∃ listed, listedByAll threats = .ok listed ∧
      markup (Text.displayLines source) (LineMarks.addAll [] listed) context limit = .ok html := by
  unfold read at h
  split at h
  · cases h
  split at h
  · cases h
  obtain ⟨text, htext, h⟩ := Checked.bind_eq_ok.mp h
  cases htext
  obtain ⟨items, hitems, h⟩ := Checked.bind_eq_ok.mp h
  cases hitems
  obtain ⟨marks, hmarks, h⟩ := Checked.bind_eq_ok.mp h
  split at h
  · cases h
  obtain ⟨html', hhtml, h⟩ := Checked.bind_eq_ok.mp h
  cases h
  rw [ofThreats_eq] at hmarks
  obtain ⟨listed, hlisted, hmarks⟩ := Checked.bind_eq_ok.mp hmarks
  exact ⟨listed, hlisted, Checked.pure_eq_ok.mp hmarks ▸ hhtml⟩

theorem exists_listedByAll (htells : ∀ t ∈ threats, ∃ kind severity numbers, Tells t kind severity numbers ∧
    ∀ v ∈ numbers, ∃ n, lineNumber? v = .ok n) : ∃ listed, listedByAll threats = .ok listed := by
  obtain ⟨ls, hls⟩ : ∃ ls, threats.mapM listedBy = .ok ls := by
    refine Checked.exists_mapM_eq_ok fun t ht => ?_
    obtain ⟨kind, severity, numbers, htells, hnumbers⟩ := htells t ht
    obtain ⟨ns, hns⟩ := Checked.exists_mapM_eq_ok hnumbers
    rw [listedBy_of_tells htells, hns]
    exact ⟨_, rfl⟩
  unfold listedByAll
  rw [hls]
  exact ⟨_, rfl⟩

end Reading

namespace SecondLine

def threat (severity : String) (numbers : List Value) : Value :=
  .dict [("threat_type", .str "eval"), ("severity", .str severity), ("line_numbers", .list numbers)]

def numbers : List Value := [.int 1, .str " 2", .null]

theorem tells_threat (severity : String) (v : Value) (vs : List Value) : Tells (threat severity (v :: vs)) "eval" severity (v :: vs) :=
  ⟨rfl, rfl, rfl⟩

theorem reordered : Reordered [threat "high" numbers, threat "odd" [.int 2]] [threat "odd" [.int 2], threat "high" numbers.reverse] := by
  have hhigh : SameButOrder (threat "high" numbers) (threat "high" numbers.reverse) :=
    ⟨_, _, _, _, tells_threat "high" _ _, tells_threat "high" _ _, (List.reverse_perm numbers).symm⟩
  have hodd : SameButOrder (threat "odd" [.int 2]) (threat "odd" [.int 2]) :=
    ⟨_, _, _, _, tells_threat "odd" _ _, tells_threat "odd" _ _, .refl _⟩
  exact ⟨_, .swap _ _ _, .cons hodd (.cons hhigh .nil)⟩

end SecondLine
end ThreatScan.Snippet
