import Mathlib.Data.List.TakeWhile
import ThreatScan.Proofs.Text.Cut
/-!
Where the lines of a text stand.

`cutWhere` cuts a text at all characters of a kind, and `placed` says where the lines begin. A line is told by the characters
before it: its number is how many of them are cuts, and the last of them is one (`getElem?_placed_cutWhere`). So a text that is
cut at more characters has the same line under the same number exactly if the additional cuts are all behind the line
(`lineAt_finer_iff`).

Displayed lines are those of a text cut at all line breaks, without an empty one at the end (`displayLineAt_iff`). This is for
texts without carriage returns, where one character ends one line.
-/
namespace ThreatScan.Text

/-- The pieces between the characters that the test accepts. -/
def cutWhere (p : Char → Bool) : List Char → List (List Char)
  | [] => [[]]
  | c :: rest => if p c then [] :: cutWhere p rest else consHead c (cutWhere p rest)

/-- Lines with the places where they begin: after a line comes one character that ends it. -/
def placed {α : Type} (length : α → Nat) (start : Nat) : List α → List (Nat × α)
  | [] => []
  | line :: rest => (start, line) :: placed length (start + length line + 1) rest

theorem placed_map {α β : Type} {length : α → Nat} {length' : β → Nat} {f : α → β} (hf : ∀ a, length' (f a) = length a)
    (start : Nat) (lines : List α) :
    placed length' start (lines.map f) = (placed length start lines).map fun e => (e.1, f e.2) := by
  induction lines generalizing start with
  | nil => rfl
  | cons line rest ih => simp only [List.map_cons, placed, hf, ih]

theorem map_snd_placed {α : Type} (length : α → Nat) (start : Nat) (lines : List α) :
    (placed length start lines).map Prod.snd = lines := by
  induction lines generalizing start with
  | nil => rfl
  | cons line rest ih => simp only [placed, List.map_cons, ih]

theorem getElem?_of_placed {α : Type} {length : α → Nat} {start i k : Nat} {lines : List α} {line : α}
    (h : (placed length start lines)[i]? = some (k, line)) : lines[i]? = some line := by
  rw [← map_snd_placed length start lines, List.getElem?_map, h, Option.map_some]

theorem exists_placed {α : Type} (length : α → Nat) (start : Nat) {i : Nat} {lines : List α} {line : α}
    (h : lines[i]? = some line) : ∃ k, (placed length start lines)[i]? = some (k, line) := by
  rw [← map_snd_placed length start lines, List.getElem?_map] at h
  obtain ⟨⟨k, _⟩, hk, rfl⟩ := Option.map_eq_some_iff.mp h
  exact ⟨k, hk⟩

theorem le_of_placed {α : Type} {length : α → Nat} {start i k : Nat} {lines : List α} {line : α}
    (h : (placed length start lines)[i]? = some (k, line)) : start ≤ k := by
  induction lines generalizing start i with
  | nil => cases h
  | cons first rest ih =>
    cases i with
    | zero =>
      cases h
      exact Nat.le_refl _
    | succ i =>
      have hrest := ih h
      omega

theorem cutWhere_ne_nil (p : Char → Bool) (s : List Char) : cutWhere p s ≠ [] := by
  cases s with
  | nil => exact List.cons_ne_nil _ _
  | cons c rest =>
    unfold cutWhere
    split
    · exact List.cons_ne_nil _ _
    · exact consHead_ne_nil _ _

theorem cutAt_eq_cutWhere (sep : Char) (s : List Char) : cutAt sep s = cutWhere (· == sep) s := by
  induction s with
  | nil => rfl
  | cons c rest ih => simp only [cutAt, cutWhere, ih, beq_iff_eq]

theorem length_cutWhere (p : Char → Bool) (s : List Char) : (cutWhere p s).length = s.countP p + 1 := by
  induction s with
  | nil => rfl
  | cons c rest ih =>
    unfold cutWhere
    split
    · next hc => rw [List.length_cons, ih, List.countP_cons_of_pos hc]
    · next hc => rw [length_consHead (cutWhere_ne_nil p rest), ih, List.countP_cons_of_neg hc]

/-! ## Lines by what is before them -/

/-- Before the line are so many cuts, the last of them right before it; the line goes to the next cut. -/
def LineAt (p : Char → Bool) (s : List Char) (i k : Nat) (line : List Char) : Prop :=
  ∃ before after, s = before ++ after ∧ before.length = k ∧ before.countP p = i ∧ (∀ c ∈ before.getLast?, p c = true) ∧
    line = after.takeWhile (!p ·)

section LineAt
variable {p q : Char → Bool} {s line : List Char} {i k : Nat}

/-- Without a cut before it, a line stands at the beginning. -/
theorem eq_nil_of_countP {before : List Char} (hcount : before.countP p = 0) (hlast : ∀ c ∈ before.getLast?, p c = true) :
    before = [] := by
  by_contra hne
  have hmem := List.getLast_mem hne
  have hp := hlast _ (List.getLast?_eq_getLast_of_ne_nil hne)
  exact List.countP_eq_zero.mp hcount _ hmem hp

theorem lineAt_zero : LineAt p s 0 k line ↔ k = 0 ∧ line = s.takeWhile (!p ·) := by
  constructor
  · rintro ⟨before, after, rfl, rfl, hcount, hlast, rfl⟩
    rw [eq_nil_of_countP hcount hlast]
    exact ⟨rfl, rfl⟩
  · rintro ⟨rfl, rfl⟩
    exact ⟨[], s, rfl, rfl, rfl, (fun _ h => nomatch h), rfl⟩

theorem not_lineAt_succ_zero : ¬ LineAt p s (i + 1) 0 line := by
  rintro ⟨before, after, -, hlength, hcount, -⟩
  rw [List.length_eq_zero_iff.mp hlength] at hcount
  cases hcount

/-- A character more in front moves the other lines on by one, and makes one line more if it is a cut. -/
theorem lineAt_cons_succ {c : Char} {j : Nat} (hj : j + (if p c then 1 else 0) = i + 1) :
    LineAt p (c :: s) (i + 1) (k + 1) line ↔ LineAt p s j k line := by
  have hcount : ∀ before : List Char, (c :: before).countP p = before.countP p + (if p c then 1 else 0) :=
    fun before => List.countP_cons
  constructor
  · rintro ⟨before, after, hs, hlength, hi, hlast, hline⟩
    cases before with
    | nil => cases hlength
    | cons d before =>
      obtain ⟨rfl, rfl⟩ := List.cons.inj hs
      rw [hcount] at hi
      refine ⟨before, after, rfl, Nat.succ.inj hlength, by omega, fun x hx => hlast x ?_, hline⟩
      cases before with
      | nil => cases hx
      | cons d rest => exact hx
  · rintro ⟨before, after, rfl, hlength, hi, hlast, hline⟩
    refine ⟨c :: before, after, rfl, by rw [List.length_cons, hlength], by rw [hcount]; omega, fun x hx => ?_, hline⟩
    cases before with
    | nil =>
      -- then the character itself is right before the line, and the cut before it
      obtain rfl : c = x := Option.some.inj hx
      by_contra hc
      rw [List.countP_nil] at hi
      rw [if_neg hc] at hj
      omega
    | cons d rest => exact hlast x hx

/-- The line with a number, and its place, by the characters before it. -/
theorem getElem?_placed_cutWhere (start : Nat) :
    (placed List.length start (cutWhere p s))[i]? = some (start + k, line) ↔ LineAt p s i k line := by
  induction s generalizing start i k line with
  | nil =>
    cases i with
    | zero =>
      rw [lineAt_zero]
      simp [cutWhere, placed, eq_comm]
    | succ i =>
      refine ⟨fun h => by simp [cutWhere, placed] at h, ?_⟩
      rintro ⟨before, after, hs, -, hcount, -⟩
      rw [(List.nil_eq_append_iff.mp hs).1] at hcount
      cases hcount
  | cons c rest ih =>
    -- lines after the first stand behind the first character
    have hbehind : ∀ {first i : Nat} {lines : List (List Char)}, start < first →
        (placed List.length first lines)[i]? ≠ some (start + 0, line) := by
      intro first i lines hlt h
      have hle := le_of_placed h
      omega
    have hnext : ∀ k, start + (k + 1) = start + 1 + k := by omega
    by_cases hc : p c = true
    · rw [cutWhere, if_pos hc, placed, List.length_nil, Nat.add_zero]
      cases i with
      | zero =>
        rw [lineAt_zero, List.takeWhile_cons_of_neg (by simp [hc])]
        simp [eq_comm]
      | succ i =>
        rw [List.getElem?_cons_succ]
        cases k with
        | zero => exact iff_of_false (hbehind (by omega)) not_lineAt_succ_zero
        | succ k => rw [lineAt_cons_succ (j := i) (by simp [hc]), ← ih (start + 1), hnext k]
    · obtain ⟨first, others, hcut⟩ := List.exists_cons_of_ne_nil (cutWhere_ne_nil p rest)
      have hfirst : first = rest.takeWhile (!p ·) := by
        have hplaced : (placed List.length start (cutWhere p rest))[0]? = some (start + 0, first) := by rw [hcut]; rfl
        exact (lineAt_zero.mp ((ih start).mp hplaced)).2
      rw [cutWhere, if_neg hc, hcut, consHead, placed]
      cases i with
      | zero =>
        rw [lineAt_zero, List.takeWhile_cons_of_pos (by simp [hc]), ← hfirst]
        simp [eq_comm]
      | succ i =>
        have hothers : placed List.length (start + (c :: first).length + 1) others =
            placed List.length (start + 1 + first.length + 1) others := by
          congr 1
          rw [List.length_cons]
          omega
        cases k with
        | zero => exact iff_of_false (hbehind (by omega)) not_lineAt_succ_zero
        | succ k =>
          rw [lineAt_cons_succ (j := i + 1) (by simp [hc]), ← ih (start + 1), hcut, placed, List.getElem?_cons_succ,
            List.getElem?_cons_succ, hothers, hnext k]

theorem placed_cutWhere_iff : (placed List.length 0 (cutWhere p s))[i]? = some (k, line) ↔ LineAt p s i k line := by
  have hplaced : (placed List.length 0 (cutWhere p s))[i]? = some (0 + k, line) ↔ LineAt p s i k line :=
    getElem?_placed_cutWhere 0
  rwa [Nat.zero_add] at hplaced

/-! ## Texts cut at more characters -/

theorem countP_eq_iff (h : ∀ c, p c = true → q c = true) (s : List Char) :
    s.countP q = s.countP p ↔ ∀ c ∈ s, q c = true → p c = true := by
  induction s with
  | nil => simp
  | cons c rest ih =>
    have hle : rest.countP p ≤ rest.countP q := List.countP_mono_left fun x _ => h x
    rw [List.countP_cons, List.countP_cons, List.forall_mem_cons, ← ih]
    by_cases hp : p c = true
    · simp [hp, h c hp]
    · by_cases hq : q c = true
      · simp [hp, hq]
        omega
      · simp [hp, hq]

theorem takeWhile_eq_iff (h : ∀ c, p c = true → q c = true) (s : List Char) :
    s.takeWhile (!q ·) = s.takeWhile (!p ·) ↔ ∀ c ∈ s.takeWhile (!p ·), q c = false := by
  induction s with
  | nil => simp
  | cons c rest ih =>
    by_cases hp : p c = true
    · simp [hp, h c hp]
    · by_cases hq : q c = true
      · simp [hp, hq]
      · simp [hp, hq, ih]

/-- Cut at more characters, a text has the line under the same number at the same place exactly if up to its end there is no
other cut. -/
theorem lineAt_finer_iff (h : ∀ c, p c = true → q c = true) (hline : LineAt p s i k line) :
    LineAt q s i k line ↔ ∀ c ∈ s.take (k + line.length), q c = true → p c = true := by
  obtain ⟨before, after, rfl, rfl, rfl, hlast, rfl⟩ := hline
  have htaken : (before ++ after).take (before.length + (after.takeWhile (!p ·)).length) =
      before ++ after.takeWhile (!p ·) := by
    rw [List.take_length_add_append, ← List.prefix_iff_eq_take.mp (List.takeWhile_prefix _)]
  have hsame : LineAt q (before ++ after) (before.countP p) before.length (after.takeWhile (!p ·)) ↔
      before.countP q = before.countP p ∧ after.takeWhile (!q ·) = after.takeWhile (!p ·) := by
    constructor
    · rintro ⟨before', after', hs, hlength, hcount, -, hline⟩
      obtain ⟨rfl, rfl⟩ := List.append_inj hs hlength.symm
      exact ⟨hcount, hline.symm⟩
    · rintro ⟨hcount, hline⟩
      exact ⟨before, after, rfl, rfl, hcount, fun c hc => h c (hlast c hc), hline.symm⟩
  have hinside : ∀ c ∈ after.takeWhile (!p ·), p c = false := fun c hc => by simpa using List.mem_takeWhile_imp hc
  rw [hsame, countP_eq_iff h, takeWhile_eq_iff h, htaken, List.forall_mem_append]
  refine and_congr_right fun _ => forall₂_congr fun c hc => ?_
  simp [hinside c hc]

/-! ## Displayed lines -/

def withoutEmptyEnd : List (List Char) → List (List Char)
  | [] => []
  | [last] => if last.isEmpty then [] else [last]
  | line :: next :: rest => line :: withoutEmptyEnd (next :: rest)

theorem displayLinesFrom_eq (read : List Char) {first : List Char} {others : List (List Char)} (hr : '\r' ∉ s)
    (hcut : cutWhere isLineBreak s = first :: others) :
    displayLinesFrom read s = withoutEmptyEnd ((read.reverse ++ first) :: others) := by
  induction s generalizing read first others with
  | nil =>
    cases hcut
    rw [List.append_nil, displayLinesFrom, withoutEmptyEnd, List.isEmpty_reverse]
  | cons c rest ih =>
    obtain ⟨first', others', hcut'⟩ := List.exists_cons_of_ne_nil (cutWhere_ne_nil isLineBreak rest)
    have hc : c ≠ '\r' := (List.ne_of_not_mem_cons hr).symm
    have hrest := fun read => ih read (List.not_mem_of_not_mem_cons hr) hcut'
    have hstep : displayLinesFrom read (c :: rest) = if isLineBreak c then read.reverse :: displayLinesFrom [] rest
        else displayLinesFrom (c :: read) rest := by
      rw [displayLinesFrom]
      exact fun _ h => absurd h hc
    rw [cutWhere, hcut'] at hcut
    rw [hstep]
    split at hcut
    · next hbreak =>
      cases hcut
      rw [if_pos hbreak, hrest, List.append_nil]
      rfl
    · next hbreak =>
      cases hcut
      rw [if_neg hbreak, hrest, List.reverse_cons, List.append_assoc]
      rfl

theorem getElem?_placed_withoutEmptyEnd {start : Nat} {lines : List (List Char)} :
    (placed List.length start (withoutEmptyEnd lines))[i]? = some (k, line) ↔
      (placed List.length start lines)[i]? = some (k, line) ∧ ¬ (i + 1 = lines.length ∧ line = []) := by
  induction lines generalizing start i with
  | nil => simp [withoutEmptyEnd, placed]
  | cons first rest ih =>
    cases rest with
    | nil =>
      rw [withoutEmptyEnd]
      cases i with
      | zero =>
        by_cases hfirst : first = []
        · simp [hfirst, placed]
        · simp only [List.isEmpty_iff, hfirst, if_false, placed]
          refine ⟨fun h => ⟨h, fun hempty => hfirst ?_⟩, fun h => h.1⟩
          cases h
          exact hempty.2
      | succ i => split <;> simp [placed]
    | cons next rest =>
      rw [withoutEmptyEnd, placed]
      cases i with
      | zero => simp [placed]
      | succ i => simpa [placed] using ih

/-- The displayed lines are those of the text cut at all line breaks, as far as the text goes. -/
theorem displayLineAt_iff (hr : '\r' ∉ s) :
    (placed List.length 0 (displayLinesFrom [] s))[i]? = some (k, line) ↔ LineAt isLineBreak s i k line ∧ k < s.length := by
  obtain ⟨first, others, hcut⟩ := List.exists_cons_of_ne_nil (cutWhere_ne_nil isLineBreak s)
  rw [displayLinesFrom_eq [] hr hcut, List.reverse_nil, List.nil_append, ← hcut, getElem?_placed_withoutEmptyEnd,
    placed_cutWhere_iff, length_cutWhere]
  refine and_congr_right ?_
  rintro ⟨before, after, rfl, rfl, rfl, -, rfl⟩
  -- only the empty line at the end has no cut and no character after it
  have hend : (before.countP isLineBreak + 1 = (before ++ after).countP isLineBreak + 1 ∧
      after.takeWhile (!isLineBreak ·) = []) ↔ after = [] := by
    rw [List.countP_append]
    constructor
    · rintro ⟨hcount, htaken⟩
      cases after with
      | nil => rfl
      | cons c rest =>
        have hnone : List.countP isLineBreak (c :: rest) = 0 := by omega
        have hc : isLineBreak c = false := by simpa using List.countP_eq_zero.mp hnone c List.mem_cons_self
        simp [hc] at htaken
    · rintro rfl
      exact ⟨rfl, rfl⟩
  rw [hend, ← List.length_eq_zero_iff, List.length_append]
  omega

end LineAt

end ThreatScan.Text
