import Mathlib.Data.List.Basic
import ThreatScan.Proofs.Checked
import ThreatScan.Rule.Scan
/-!
The findings of a scan stand in the order of the text.

A scan goes through the text once for each rule, and sorts what all rules found by line. `lineMajor` goes through the text
once: line by line, on each line rule by rule, for each rule from left to right. What is proved: the two give the same list,
for every search engine (`scanAll_eq_lineMajor`). The rules tried on a line are those that the engine can read and whose
search has not broken off on a line before (`searching`). A rule that cannot be read changes nothing for the others
(`scanAll_readable`).

A search that breaks off is lost for the lines that follow, also where the rule would match there (`BrokenSearch`).
-/
namespace ThreatScan

/-! ## Sorting by a key keeps the order of equal keys -/

section Sorting
variable {α : Type} {key : α → Nat}

theorem key_le_trans (a b c : α) (hab : decide (key a ≤ key b) = true) (hbc : decide (key b ≤ key c) = true) :
    decide (key a ≤ key c) = true := by
  simp only [decide_eq_true_eq] at hab hbc ⊢
  exact Nat.le_trans hab hbc

theorem key_le_total (a b : α) : (decide (key a ≤ key b) || decide (key b ≤ key a)) = true := by
  simp only [Bool.or_eq_true, decide_eq_true_eq]
  exact Nat.le_total _ _

theorem pairwise_mergeSort_key (l : List α) :
    (l.mergeSort fun a b => decide (key a ≤ key b)).Pairwise (key · ≤ key ·) := by
  have h := List.pairwise_mergeSort (@key_le_trans _ key) key_le_total l
  simpa only [decide_eq_true_eq] using h

theorem filter_mergeSort_key (l : List α) (n : Nat) :
    (l.mergeSort fun a b => decide (key a ≤ key b)).filter (key · = n) = l.filter (key · = n) := by
  -- the items of one key are in order already, so they stay a sublist of the sorted list
  have hordered : (l.filter (key · = n)).Pairwise fun a b => decide (key a ≤ key b) = true := by
    refine List.pairwise_of_forall_mem_list fun a ha b hb => ?_
    simp only [List.mem_filter, decide_eq_true_eq] at ha hb ⊢
    omega
  have hsub := (List.sublist_mergeSort key_le_trans key_le_total hordered List.filter_sublist).filter (key · = n)
  rw [List.filter_filter] at hsub
  simp only [Bool.and_self] at hsub
  refine (hsub.eq_of_length ?_).symm
  exact ((List.mergeSort_perm l _).filter _).length_eq.symm

theorem mem_iff_of_filter_eq {l m : List α} (h : ∀ n, l.filter (key · = n) = m.filter (key · = n)) (x : α) :
    x ∈ l ↔ x ∈ m := by
  have hx : x ∈ l.filter (key · = key x) ↔ x ∈ m.filter (key · = key x) := by rw [h]
  simpa using hx

/-- A list in the order of its keys is determined by what it holds of each key. -/
theorem eq_of_pairwise_of_filter_eq {l m : List α} (hl : l.Pairwise (key · ≤ key ·)) (hm : m.Pairwise (key · ≤ key ·))
    (h : ∀ n, l.filter (key · = n) = m.filter (key · = n)) : l = m := by
  induction l generalizing m with
  | nil =>
    refine (List.eq_nil_iff_forall_not_mem.mpr fun x hx => ?_).symm
    exact List.not_mem_nil ((mem_iff_of_filter_eq h x).mpr hx)
  | cons x l ih =>
    have hxm := (mem_iff_of_filter_eq h x).mp List.mem_cons_self
    cases m with
    | nil => exact absurd hxm List.not_mem_nil
    | cons y m =>
      have hyl := (mem_iff_of_filter_eq h y).mpr List.mem_cons_self
      rw [List.pairwise_cons] at hl hm
      -- each of the two first items has the least key
      have hkey : key y = key x := by
        refine Nat.le_antisymm ?_ ?_
        · rcases List.mem_cons.mp hxm with rfl | hxm
          · exact Nat.le_refl _
          · exact hm.1 x hxm
        · rcases List.mem_cons.mp hyl with rfl | hyl
          · exact Nat.le_refl _
          · exact hl.1 y hyl
      have hfirst := h (key x)
      simp only [List.filter_cons, hkey, decide_true, if_true, List.cons.injEq] at hfirst
      obtain ⟨rfl, hsame⟩ := hfirst
      refine congrArg (x :: ·) (ih hl.2 hm.2 fun n => ?_)
      by_cases hn : key x = n
      · rw [← hn]
        exact hsame
      · simpa [hn] using h n

/-- What a list of groups holds of a key is what the groups of that key hold. -/
theorem filter_flatMap_key {β : Type} {groupKey : β → Nat} {f : β → List α} (hf : ∀ b, ∀ x ∈ f b, key x = groupKey b)
    (groups : List β) (n : Nat) :
    (groups.flatMap f).filter (key · = n) = (groups.filter (groupKey · = n)).flatMap f := by
  induction groups with
  | nil => rfl
  | cons b rest ih =>
    rw [List.flatMap_cons, List.filter_append, ih, List.filter_cons]
    by_cases hn : groupKey b = n
    · have hall : (f b).filter (key · = n) = f b :=
        List.filter_eq_self.mpr fun x hx => by rw [hf b x hx]; exact decide_eq_true hn
      simp [hall, hn]
    · have hnone : (f b).filter (key · = n) = [] :=
        List.filter_eq_nil_iff.mpr fun x hx => by rw [hf b x hx]; simpa using hn
      simp [hnone, hn]

theorem flatMap_filter_eq {β : Type} {p : β → Bool} {f g : β → List α} (l : List β) (hp : ∀ b, p b = true → f b = g b)
    (hn : ∀ b, p b = false → g b = []) : (l.filter p).flatMap f = l.flatMap g := by
  induction l with
  | nil => rfl
  | cons b rest ih =>
    cases hb : p b with
    | true => rw [List.filter_cons_of_pos hb, List.flatMap_cons, List.flatMap_cons, ih, hp b hb]
    | false => rw [List.filter_cons_of_neg (by simp [hb]), List.flatMap_cons, ih, hn b hb, List.nil_append]

/-- A table given column by column, sorted by the keys of its rows, is the table row by row. -/
theorem mergeSort_flatMap_flatMap {ρ κ : Type} {rowKey : ρ → Nat} {rows : List ρ} {columns : List κ}
    {cell : ρ → κ → List α} (hrows : rows.Pairwise (rowKey · < rowKey ·))
    (hcell : ∀ a b, ∀ x ∈ cell a b, key x = rowKey a) :
    (columns.flatMap fun b => rows.flatMap fun a => cell a b).mergeSort (fun x y => decide (key x ≤ key y)) =
      rows.flatMap fun a => columns.flatMap fun b => cell a b := by
  have hrow : ∀ a, ∀ x ∈ columns.flatMap (fun b => cell a b), key x = rowKey a := by
    intro a x hx
    obtain ⟨b, -, hx⟩ := List.mem_flatMap.mp hx
    exact hcell a b x hx
  refine eq_of_pairwise_of_filter_eq (pairwise_mergeSort_key _) ?_ fun n => ?_
  · refine List.pairwise_flatMap.mpr ⟨fun a _ => ?_, hrows.imp fun {a a'} hlt x hx y hy => ?_⟩
    · refine List.pairwise_of_forall_mem_list fun x hx y hy => ?_
      exact Nat.le_of_eq ((hrow a x hx).trans (hrow a y hy).symm)
    · rw [hrow a x hx, hrow a' y hy]
      exact Nat.le_of_lt hlt
  · rw [filter_mergeSort_key, filter_flatMap_key hrow, List.filter_flatMap]
    simp only [filter_flatMap_key fun a => hcell a _]
    -- at most one row has the key, and then both sides are that row
    have hkept := hrows.filter (rowKey · = n)
    have hkeys : ∀ a ∈ rows.filter (rowKey · = n), rowKey a = n := fun a ha => by simpa using (List.mem_filter.mp ha).2
    match rows.filter (rowKey · = n), hkept, hkeys with
    | [], _, _ => simp
    | [a], _, _ => simp
    | a :: b :: _, hkept, hkeys =>
      have hlt : rowKey a < rowKey b := (List.pairwise_cons.mp hkept).1 b List.mem_cons_self
      rw [hkeys a List.mem_cons_self, hkeys b (List.mem_cons_of_mem a List.mem_cons_self)] at hlt
      exact absurd hlt (Nat.lt_irrefl n)

end Sorting

namespace Rule

/-! ## The scan line by line -/

/-- What a rule finds on one numbered line alone, from left to right. -/
def entriesOn (engine : Engine) (lines : List String) (r : Rule) (text : String) (n : Nat) : List RuleMatch :=
  match r.finder? engine with
  | some find => (find text).found.map fun m =>
      { rule := r, line := n, text := m.text, context := contextOf lines n, column := m.start }
  | none => []

def breaksOn (engine : Engine) (r : Rule) (lines : List String) : Bool :=
  match r.finder? engine with
  | some find => lines.any fun text => (find text).broken
  | none => false

def readable (engine : Engine) (rules : List Rule) : List Rule := rules.filter fun r => (r.finder? engine).isSome

/-- The rules whose search has come as far as the line with that number: readable ones that have not broken off on a line
before it. -/
def searching (engine : Engine) (lines : List String) (rules : List Rule) (n : Nat) : List Rule :=
  (readable engine rules).filter fun r => !r.breaksOn engine (lines.take (n - 1))

/-- The findings line by line, numbered from one, and on each line rule by rule. -/
def lineMajor (engine : Engine) (lines : List String) (rulesAt : Nat → List Rule) : List RuleMatch :=
  (lines.zipIdx 1).flatMap fun e => (rulesAt e.2).flatMap fun r => r.entriesOn engine lines e.1 e.2

section Engine
variable (engine : Engine) (r : Rule) (rules : List Rule) (lines : List String)

theorem line_of_mem_entriesOn {text : String} {n : Nat} {m : RuleMatch} (h : m ∈ r.entriesOn engine lines text n) :
    m.line = n := by
  unfold entriesOn at h
  split at h
  · obtain ⟨f, -, rfl⟩ := List.mem_map.mp h
    rfl
  · simp at h

/-- A search gives, on each line up to the one where it breaks off, what the rule finds there alone. -/
theorem scanFrom_eq_flatMap {find : String → LineScan} (hf : r.finder? engine = some find) (before rest : List String)
    (hb : before.any (fun text => (find text).broken) = false) :
    r.scanFrom find lines (before.length + 1) rest = (rest.zipIdx (before.length + 1)).flatMap fun e =>
      if (before ++ rest).take (e.2 - 1) |>.any fun text => (find text).broken then []
      else r.entriesOn engine lines e.1 e.2 := by
  induction rest generalizing before with
  | nil => rfl
  | cons text rest ih =>
    rw [scanFrom, List.zipIdx_cons, List.flatMap_cons]
    congr 1
    · simp [hb, entriesOn, hf, onLine]
    · cases hbroken : (find text).broken with
      | true =>
        -- every later line has this one before it
        refine (List.flatMap_eq_nil_iff.mpr fun e he => if_pos ?_).symm
        obtain ⟨i, hi⟩ := Nat.exists_eq_add_of_le (List.le_snd_of_mem_zipIdx he)
        have hlate : e.2 - 1 = before.length + (i + 1) := by omega
        rw [hlate, List.take_length_add_append, List.take_succ_cons]
        simp [hbroken]
      | false =>
        have hb' : (before ++ [text]).any (fun text => (find text).broken) = false := by simp [hb, hbroken]
        simpa using ih (before ++ [text]) hb'

theorem scan_eq_flatMap : r.scan engine lines = (lines.zipIdx 1).flatMap fun e =>
    if r.breaksOn engine (lines.take (e.2 - 1)) then [] else r.entriesOn engine lines e.1 e.2 := by
  unfold scan
  cases hf : r.finder? engine with
  | none => simp [entriesOn, hf]
  | some find =>
    have h := scanFrom_eq_flatMap engine r lines hf [] lines rfl
    simpa [breaksOn, hf] using h

theorem flatMap_searching (text : String) (n : Nat) :
    ((searching engine lines rules n).flatMap fun r => r.entriesOn engine lines text n) = rules.flatMap fun r =>
      if r.breaksOn engine (lines.take (n - 1)) then [] else r.entriesOn engine lines text n := by
  rw [searching, readable, List.filter_filter]
  refine flatMap_filter_eq rules ?_ ?_
  · intro r hr
    simp only [Bool.and_eq_true, Bool.not_eq_true'] at hr
    simp [hr.1]
  · intro r hr
    cases hf : r.finder? engine with
    | none => simp [entriesOn, hf]
    | some find =>
      have hbroken : r.breaksOn engine (lines.take (n - 1)) = true := by simpa [hf] using hr
      rw [if_pos hbroken]

/-- A scan gives the findings in the order of the text. -/
theorem scanAll_eq_lineMajor (source : String) : scanAll engine rules source =
    lineMajor engine (Text.lines source) (searching engine (Text.lines source) rules) := by
  have hcell : ∀ (e : String × Nat) (r : Rule), ∀ m ∈ (if r.breaksOn engine ((Text.lines source).take (e.2 - 1)) then []
      else r.entriesOn engine (Text.lines source) e.1 e.2), m.line = e.2 := by
    intro e r m hm
    split at hm
    · simp at hm
    · exact line_of_mem_entriesOn engine r _ hm
  have hlines : ((Text.lines source).zipIdx 1).Pairwise (·.2 < ·.2) := by
    rw [← List.pairwise_map, List.zipIdx_map_snd]
    exact List.pairwise_lt_range'
  simp only [scanAll, scan_eq_flatMap, lineMajor, flatMap_searching]
  exact mergeSort_flatMap_flatMap hlines hcell

/-- A rule that cannot be read changes nothing. -/
theorem scanAll_readable (source : String) : scanAll engine (readable engine rules) source = scanAll engine rules source := by
  unfold scanAll readable
  congr 1
  refine flatMap_filter_eq rules (fun _ _ => rfl) fun r hr => ?_
  have hf : r.finder? engine = none := by simpa using hr
  simp [scan, hf]

/-- Where no search breaks off, every readable rule is tried on every line. -/
theorem lineMajor_searching_of_unbroken (h : ∀ r ∈ rules, r.breaksOn engine lines = false) :
    lineMajor engine lines (searching engine lines rules) = lineMajor engine lines fun _ => readable engine rules := by
  have hall : ∀ n, searching engine lines rules n = readable engine rules := by
    intro n
    refine List.filter_eq_self.mpr fun r hr => ?_
    have hr := h r (List.mem_of_mem_filter hr)
    unfold breaksOn at hr ⊢
    split at hr
    · simp only [List.any_eq_false, Bool.not_eq_true'] at hr ⊢
      exact fun text ht => hr text (List.mem_of_mem_take ht)
    · rfl
  unfold lineMajor
  simp only [hall]

end Engine

/-! ## Rules as they are written -/

def ofRecord (fields : List (String × Value)) : Rule where
  id := (Value.fieldOf? "id" fields).getD (.str "")
  name := (Value.fieldOf? "name" fields).getD (.str "")
  pattern := (Value.fieldOf? "pattern" fields).getD (.str "")
  severity := (Value.fieldOf? "severity" fields).getD (.str "medium")
  description := (Value.fieldOf? "description" fields).getD (.str "")

theorem mapM_ofValue_records (records : List (List (String × Value))) :
    (records.map Value.dict).mapM ofValue = .ok (records.map ofRecord) := by
  rw [Checked.mapM_eq_ok, List.forall₂_map_left_iff, List.forall₂_map_right_iff]
  exact List.forall₂_same.mpr fun fields _ => rfl

theorem scanValue_records {source : String} (hs : source ≠ "") (records : List (List (String × Value))) :
    scanValue (.str source) (.list (records.map .dict)) = .ok (scanAll regexEngine (records.map ofRecord) source) := by
  unfold scanValue
  cases records with
  | nil => simp [Value.truthy, scanAll]
  | cons fields rest =>
    rw [if_neg (by simp [Value.truthy, hs])]
    refine Checked.bind_eq_ok.mpr ⟨source, rfl, ?_⟩
    refine Checked.bind_eq_ok.mpr ⟨_, rfl, ?_⟩
    exact Checked.bind_eq_ok.mpr ⟨_, mapM_ofValue_records (fields :: rest), rfl⟩

/-- A finding comes from a scan of the text with rules that were read. -/
theorem exists_of_mem_scanValue {source rules : Value} {found : List RuleMatch} (h : scanValue source rules = .ok found)
    {m : RuleMatch} (hm : m ∈ found) : ∃ text records rs, source.text "split" = .ok text ∧ rules.items = .ok records ∧
      records.mapM ofValue = .ok rs ∧ m ∈ scanAll regexEngine rs text := by
  unfold scanValue at h
  split at h
  · cases h
    cases hm
  · obtain ⟨text, htext, h⟩ := Checked.bind_eq_ok.mp h
    obtain ⟨records, hrecords, h⟩ := Checked.bind_eq_ok.mp h
    obtain ⟨rs, hrs, h⟩ := Checked.bind_eq_ok.mp h
    rw [← Checked.pure_eq_ok.mp h] at hm
    exact ⟨text, records, rs, htext, hrecords, hrs, hm⟩

/-- The findings of a list of rules on a text are those of the scan line by line, whatever the engine finds. On a line the
rules are tried in turn that can be read and have not broken off before; those that cannot be read might as well not be
there. If no search breaks off, every readable rule is tried on every line. -/
theorem findings_in_line_order {source : String} (hs : source ≠ "") (records : List (List (String × Value))) :
    let rules := records.map ofRecord
    let lines := Text.lines source
    scanValue (.str source) (.list (records.map .dict)) = .ok (scanAll regexEngine rules source) ∧
    ∀ engine : Engine,
      scanAll engine rules source = lineMajor engine lines (searching engine lines rules) ∧
      scanAll engine rules source = scanAll engine (readable engine rules) source ∧
      ((∀ r ∈ rules, r.breaksOn engine lines = false) →
        scanAll engine rules source = lineMajor engine lines fun _ => readable engine rules) := by
  intro rules lines
  refine ⟨scanValue_records hs records, fun engine => ⟨?_, ?_, fun hunbroken => ?_⟩⟩
  · exact scanAll_eq_lineMajor engine rules source
  · exact (scanAll_readable engine rules source).symm
  · rw [scanAll_eq_lineMajor, lineMajor_searching_of_unbroken engine rules lines hunbroken]

def placeOf (m : RuleMatch) : Nat × Nat × String := (m.line, m.column, m.text)

def patternRecord (pattern : String) : List (String × Value) := [("pattern", .str pattern)]

/-- Three rules, one of which cannot be read, on two lines. -/
theorem two_lines_in_order :
    let records := [patternRecord "[ab]", patternRecord "(", patternRecord "b"]
    "ab\nb" ≠ "" ∧ (∀ r ∈ records.map ofRecord, r.breaksOn regexEngine (Text.lines "ab\nb") = false) ∧
    ∃ found, scanValue (.str "ab\nb") (.list (records.map .dict)) = .ok found ∧
      found.map placeOf = [(1, 0, "a"), (1, 1, "b"), (1, 1, "b"), (2, 0, "b"), (2, 0, "b")] := by
  intro records
  have hs : "ab\nb" ≠ "" := by decide
  have hunbroken : ∀ r ∈ records.map ofRecord, r.breaksOn regexEngine (Text.lines "ab\nb") = false := by
    have hall : ((records.map ofRecord).all fun r => !r.breaksOn regexEngine (Text.lines "ab\nb")) = true := by
      decide +kernel
    intro r hr
    simpa using List.all_eq_true.mp hall r hr
  obtain ⟨hscan, hengine⟩ := findings_in_line_order hs records
  obtain ⟨-, -, hplain⟩ := hengine regexEngine
  refine ⟨hs, hunbroken, _, hscan, ?_⟩
  rw [hplain hunbroken]
  decide +kernel

namespace BrokenSearch

/-- A rule whose group is left half-way on the second line. -/
def record : List (String × Value) := patternRecord "((a)|b)++"

def source : String := "a\nabb\nb"

/-- The rule matches on the last line, but its search has broken off on the line before, so the match is not found. -/
theorem last_line_not_searched :
    (lineMajor regexEngine (Text.lines source) fun _ => readable regexEngine [ofRecord record]).map placeOf =
      [(1, 0, "a"), (3, 0, "b")] ∧
    (∃ found, scanValue (.str source) (.list [.dict record]) = .ok found ∧ found.map placeOf = [(1, 0, "a")]) ∧
    scanValue (.str source) (.list [.dict record]) ≠
      .ok (lineMajor regexEngine (Text.lines source) fun _ => readable regexEngine [ofRecord record]) := by
  have hall : (lineMajor regexEngine (Text.lines source) fun _ => readable regexEngine [ofRecord record]).map placeOf =
      [(1, 0, "a"), (3, 0, "b")] := by
    decide +kernel
  have hfound : (scanAll regexEngine [ofRecord record] source).map placeOf = [(1, 0, "a")] := by
    rw [scanAll_eq_lineMajor]
    decide +kernel
  have hscan := @scanValue_records source (by decide) [record]
  refine ⟨hall, ⟨_, hscan, hfound⟩, fun heq => ?_⟩
  have hsame := Except.ok.inj (hscan.symm.trans heq)
  rw [← hsame, List.map_cons, List.map_nil, hfound] at hall
  simp at hall

end BrokenSearch
end Rule
end ThreatScan
