import Mathlib.Data.List.Infix
import ThreatScan.Text.Blank
import ThreatScan.Text.Utf8
import ThreatScan.Text.Word
/-!
How texts are read: blanks at their ends, line ends, and broken bytes.

What a trimmed text starts with is what stands behind the blanks (`prefix_trimList_iff`). A text with uniform line ends holds
no carriage return, and line ends are made uniform piece by piece (`uniformLines_append`). Bytes that can be read strictly are
read the same leniently (`leniently_of_strictly`).
-/
namespace ThreatScan.Text

/-! ## Blanks -/

theorem dropRight_isPrefix (drop : Char → Bool) (s : List Char) : dropRight drop s <+: s := by
  unfold dropRight
  rw [← List.reverse_suffix, List.reverse_reverse]
  exact List.dropWhile_suffix drop

theorem prefix_dropRight_iff {drop : Char → Bool} {p s : List Char} (hp : ∀ c ∈ p, drop c = false) :
    p <+: dropRight drop s ↔ p <+: s := by
  constructor
  · intro h
    exact h.trans (dropRight_isPrefix drop s)
  · rintro ⟨rest, rfl⟩
    unfold dropRight
    have hkeep : p.reverse.dropWhile drop = p.reverse := by
      cases hr : p.reverse with
      | nil => rfl
      | cons c cs =>
        have hmem : c ∈ p := List.mem_reverse.mp (by rw [hr]; exact List.mem_cons_self)
        rw [List.dropWhile_cons, hp c hmem]
        rfl
    rw [List.reverse_append, List.dropWhile_append, hkeep]
    split
    · rw [List.reverse_reverse]
    · rw [List.reverse_append, List.reverse_reverse]
      exact List.prefix_append _ _

theorem dropRight_append_cons {drop : Char → Bool} {c : Char} (hc : drop c = false) (p s : List Char) :
    dropRight drop (p ++ c :: s) = p ++ c :: dropRight drop s := by
  have hreverse : (p ++ c :: s).reverse = s.reverse ++ c :: p.reverse := by simp
  have hstop : (c :: p.reverse).dropWhile drop = c :: p.reverse := List.dropWhile_cons_of_neg (by simp [hc])
  unfold dropRight
  rw [hreverse, List.dropWhile_append, hstop]
  split
  · next h =>
    rw [List.isEmpty_iff.mp h]
    simp
  · simp

def Blank (s : List Char) : Prop := ∀ c ∈ s, isBlank c = true

instance (s : List Char) : Decidable (Blank s) := List.decidableBAll (fun c => isBlank c = true) s

theorem Blank.not_mem {s : List Char} (h : Blank s) {c : Char} (hc : isBlank c = false) : c ∉ s := by
  intro hmem
  rw [h c hmem] at hc
  cases hc

theorem Blank.dropWhile {s : List Char} (h : Blank s) {c : Char} (hc : isBlank c = false) (rest : List Char) :
    (s ++ c :: rest).dropWhile isBlank = c :: rest := by
  rw [List.dropWhile_append_of_pos h, List.dropWhile_cons_of_neg (by simp [hc])]

theorem isBlank_of_isWordChar {c : Char} (h : isWordChar c = true) : isBlank c = false := by
  have hcodes : (blankSpans.flatMap fun s => List.range' s.1 (s.2 + 1 - s.1)).all
      (fun n => !isWordChar (Char.ofNat n)) = true := by decide +kernel
  cases hb : isBlank c with
  | false => rfl
  | true =>
    obtain ⟨s, hs, hlo, hhi⟩ := (Spans.has_iff _ _).mp hb
    have hmem : c.toNat ∈ blankSpans.flatMap fun s => List.range' s.1 (s.2 + 1 - s.1) :=
      List.mem_flatMap.mpr ⟨s, hs, List.mem_range'_1.mpr ⟨hlo, by omega⟩⟩
    have hword := List.all_eq_true.mp hcodes _ hmem
    rw [Char.ofNat_toNat, h] at hword
    cases hword

theorem trimList_of_not_blank {s : List Char} (h : ∀ c ∈ s, isBlank c = false) : trimList s = s := by
  have hkeep : ∀ l : List Char, (∀ c ∈ l, isBlank c = false) → l.dropWhile isBlank = l := by
    intro l hl
    cases l with
    | nil => rfl
    | cons c rest => exact List.dropWhile_cons_of_neg (by simp [hl c List.mem_cons_self])
  unfold trimList dropRight
  rw [hkeep s h, hkeep s.reverse fun c hc => h c (List.mem_reverse.mp hc), List.reverse_reverse]

theorem trimList_isInfix (s : List Char) : trimList s <:+: s :=
  (dropRight_isPrefix isBlank _).isInfix.trans (List.dropWhile_suffix isBlank).isInfix

theorem trimList_cons_of_blank {c : Char} (hc : isBlank c = true) (s : List Char) : trimList (c :: s) = trimList s := by
  unfold trimList
  rw [List.dropWhile_cons_of_pos hc]

/-- Nothing is trimmed between two characters that are no blanks. -/
theorem trimList_between {c d : Char} (hc : isBlank c = false) (hd : isBlank d = false) (p s : List Char) :
    trimList (c :: (p ++ d :: s)) = c :: (p ++ d :: dropRight isBlank s) := by
  unfold trimList
  rw [List.dropWhile_cons_of_neg (by simp [hc]), ← List.cons_append, dropRight_append_cons hd, List.cons_append]

theorem prefix_trimList_iff {p s : List Char} (hp : ∀ c ∈ p, isBlank c = false) :
    p <+: trimList s ↔ p <+: s.dropWhile isBlank := prefix_dropRight_iff hp

theorem trimList_eq_nil_iff {s : List Char} : trimList s = [] ↔ s.dropWhile isBlank = [] := by
  unfold trimList
  constructor
  · intro h
    cases hs : s.dropWhile isBlank with
    | nil => rfl
    | cons c rest =>
      have hc : isBlank c = false := by
        have hhead := List.head_dropWhile_not (p := isBlank) (l := s) (by rw [hs]; simp)
        simpa [hs] using hhead
      have hp : [c] <+: dropRight isBlank (c :: rest) := by
        rw [prefix_dropRight_iff (by simpa using hc)]
        exact ⟨rest, rfl⟩
      rw [← hs, h] at hp
      simp at hp
  · intro h
    rw [h]
    rfl

/-! ## Line ends -/

theorem not_mem_uniformLines (s : List Char) : '\r' ∉ uniformLines s := by
  fun_induction uniformLines s with
  | case1 => simp
  | case2 rest ih => simp [ih]
  | case3 c rest _ ih =>
    rw [List.mem_cons, not_or]
    refine ⟨?_, ih⟩
    split
    · decide
    · next hc => exact fun h => hc h.symm

theorem uniformLines_cons {c : Char} (hc : c ≠ '\r') (s : List Char) : uniformLines (c :: s) = c :: uniformLines s := by
  rw [uniformLines, if_neg hc]
  rintro rest rfl
  exact absurd rfl hc

theorem uniformLines_append_of_not_mem {p : List Char} (hp : '\r' ∉ p) (s : List Char) :
    uniformLines (p ++ s) = p ++ uniformLines s := by
  induction p with
  | nil => rfl
  | cons c rest ih =>
    rw [List.mem_cons, not_or] at hp
    rw [List.cons_append, uniformLines_cons (Ne.symm hp.1), ih hp.2, List.cons_append]

theorem uniformLines_of_not_mem {s : List Char} (hs : '\r' ∉ s) : uniformLines s = s := by
  have h := uniformLines_append_of_not_mem hs []
  rwa [uniformLines, List.append_nil] at h

/-- Line ends are made uniform piece by piece, unless a piece starts with the second half of one. -/
theorem uniformLines_append (p : List Char) {s : List Char} (hs : s.head? ≠ some '\n') :
    uniformLines (p ++ s) = uniformLines p ++ uniformLines s := by
  fun_induction uniformLines p with
  | case1 => rfl
  | case2 rest ih => simp [uniformLines, ih]
  | case3 c rest hne ih =>
    rw [List.cons_append, List.cons_append, ← ih, uniformLines]
    intro rest' hc hr
    cases rest with
    | nil =>
      rw [List.nil_append] at hr
      rw [hr] at hs
      exact hs rfl
    | cons d ds => exact hne ds hc (by rw [(List.cons.inj hr).1])

/-- Blanks stay blanks: a line end is one. -/
theorem Blank.uniformLines {s : List Char} (h : Blank s) : Blank (Text.uniformLines s) := by
  fun_induction Text.uniformLines s with
  | case1 => exact h
  | case2 rest ih =>
    intro c hc
    rcases List.mem_cons.mp hc with rfl | hc
    · decide
    · exact ih (fun d hd => h d (by simp [hd])) c hc
  | case3 d rest _ ih =>
    intro c hc
    rcases List.mem_cons.mp hc with rfl | hc
    · split
      · decide
      · exact h d List.mem_cons_self
    · exact ih (fun e he => h e (List.mem_cons_of_mem d he)) c hc

/-! ## Broken bytes -/

theorem leniently_of_strictly {pieces : List BytePiece} {cs : List Char} (h : strictly pieces = .ok cs) :
    leniently pieces = cs := by
  induction pieces generalizing cs with
  | nil => exact Except.ok.inj h
  | cons piece rest ih =>
    cases piece with
    | char c =>
      rw [strictly] at h
      cases hrest : strictly rest with
      | error e => rw [hrest] at h; cases h
      | ok ds =>
        rw [hrest] at h
        rw [← Except.ok.inj h, ← ih hrest]
        rfl
    | broken pos length first why => cases h

end ThreatScan.Text
