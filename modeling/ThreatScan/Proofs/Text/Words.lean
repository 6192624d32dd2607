import Mathlib.Data.List.TakeWhile
import ThreatScan.Proofs.Text.Cut
/-!
Words of a text, and texts from which a key was taken away.

Blanks around a text have no say in its words (`wordsFrom_trimList`), and a word goes on to the next blank (`wordsFrom_word`).
A key is taken away wherever it stands (`without`). What is not part of the key divides the text into pieces from which it is
taken away one by one (`without_append_cons`), and a text stays as it is exactly if the key does not occur in it
(`without_eq_self_iff`).
-/
namespace ThreatScan.Text

/-! ## Words -/

section Words
variable {w b s : List Char}

theorem wordsFrom_blank_append (hb : Blank b) (s : List Char) : wordsFrom [] (b ++ s) = wordsFrom [] s := by
  induction b with
  | nil => rfl
  | cons c rest ih =>
    have hc : isBlank c = true := hb c List.mem_cons_self
    rw [List.cons_append, wordsFrom, if_pos hc]
    exact ih fun d hd => hb d (List.mem_cons_of_mem c hd)

theorem wordsFrom_of_blank (hb : Blank b) : wordsFrom [] b = [] := by
  simpa [wordsFrom] using wordsFrom_blank_append hb []

theorem wordsFrom_append_blank (hb : Blank b) (word s : List Char) : wordsFrom word (s ++ b) = wordsFrom word s := by
  induction s generalizing word with
  | nil =>
    cases b with
    | nil => rfl
    | cons c rest =>
      have hrest : wordsFrom [] rest = [] := wordsFrom_of_blank fun d hd => hb d (List.mem_cons_of_mem c hd)
      simp [wordsFrom, hb c List.mem_cons_self, hrest]
  | cons c rest ih =>
    rw [List.cons_append, wordsFrom, wordsFrom, ih, ih]

theorem wordsFrom_append_word (hw : ∀ c ∈ w, isBlank c = false) (word s : List Char) :
    wordsFrom word (w ++ s) = wordsFrom (w.reverse ++ word) s := by
  induction w generalizing word with
  | nil => rfl
  | cons c rest ih =>
    have hc : ¬ isBlank c = true := by simp [hw c List.mem_cons_self]
    rw [List.cons_append, wordsFrom, if_neg hc, ih fun d hd => hw d (List.mem_cons_of_mem c hd)]
    simp

theorem wordsFrom_word (hne : w ≠ []) (hw : ∀ c ∈ w, isBlank c = false) (hs : ∀ c ∈ s.head?, isBlank c = true) :
    wordsFrom [] (w ++ s) = w :: wordsFrom [] s := by
  rw [wordsFrom_append_word hw]
  cases s with
  | nil => simp [wordsFrom, hne]
  | cons c rest => simp [wordsFrom, hs c rfl, hne]

end Words

/-! ## Trimmed texts -/

theorem dropRight_of_blank {b : List Char} (hb : Blank b) : dropRight isBlank b = [] := by
  unfold dropRight
  rw [List.reverse_eq_nil_iff, List.dropWhile_eq_nil_iff]
  exact fun c hc => hb c (List.mem_reverse.mp hc)

theorem trimList_blank_append {lead : List Char} (hlead : Blank lead) (s : List Char) : trimList (lead ++ s) = trimList s := by
  unfold trimList
  rw [List.dropWhile_append_of_pos hlead]

theorem trimList_around {lead x trail : List Char} (hlead : Blank lead) (htrail : Blank trail)
    (hfirst : ∀ c ∈ x.head?, isBlank c = false) (hlast : ∀ c ∈ x.getLast?, isBlank c = false) :
    trimList (lead ++ (x ++ trail)) = x := by
  rw [trimList_blank_append hlead, trimList]
  rcases List.eq_nil_or_concat x with rfl | ⟨y, d, rfl⟩
  · rw [List.nil_append, List.dropWhile_eq_nil_iff.mpr htrail]
    rfl
  · rw [List.concat_eq_append] at hfirst hlast ⊢
    have hkept : (y ++ [d] ++ trail).dropWhile isBlank = y ++ [d] ++ trail := by
      cases y with
      | nil => exact List.dropWhile_cons_of_neg (by simp [hfirst d rfl])
      | cons c rest => exact List.dropWhile_cons_of_neg (by simp [hfirst c rfl])
    rw [hkept, List.append_assoc, List.singleton_append, dropRight_append_cons (hlast d (by simp)), dropRight_of_blank htrail]

theorem exists_trimList_eq (s : List Char) : ∃ lead trail, s = lead ++ (trimList s ++ trail) ∧ Blank lead ∧ Blank trail := by
  have hend : ∀ t : List Char, dropRight isBlank t ++ (t.reverse.takeWhile isBlank).reverse = t := by
    intro t
    rw [dropRight, ← List.reverse_append, List.takeWhile_append_dropWhile, List.reverse_reverse]
  refine ⟨s.takeWhile isBlank, ((s.dropWhile isBlank).reverse.takeWhile isBlank).reverse, ?_, ?_, ?_⟩
  · rw [trimList, hend, List.takeWhile_append_dropWhile]
  · exact fun c hc => List.mem_takeWhile_imp hc
  · exact fun c hc => List.mem_takeWhile_imp (List.mem_reverse.mp hc)

theorem wordsFrom_trimList (s : List Char) : wordsFrom [] (trimList s) = wordsFrom [] s := by
  obtain ⟨lead, trail, hs, hlead, htrail⟩ := exists_trimList_eq s
  conv_rhs => rw [hs, wordsFrom_blank_append hlead, wordsFrom_append_blank htrail]

/-! ## A key that is taken away -/

/-- The text without the key, wherever it stands. -/
def without (key s : List Char) : List Char := replaceFrom key [] 0 s

section Without
variable {key : List Char}

theorem replaceFrom_skip (key new x s : List Char) : replaceFrom key new x.length (x ++ s) = replaceFrom key new 0 s := by
  induction x with
  | nil => rfl
  | cons c rest ih => rw [List.cons_append, List.length_cons, replaceFrom, ih]

theorem replaceFrom_of_not_infix (new : List Char) {s : List Char} (h : ¬ key <:+: s) : replaceFrom key new 0 s = s := by
  induction s with
  | nil => rfl
  | cons c rest ih =>
    obtain ⟨hstart, hrest⟩ := not_or.mp (mt List.infix_cons_iff.mpr h)
    rw [replaceFrom, if_neg (mt List.isPrefixOf_iff_prefix.mp hstart), ih hrest]

/-- A character that is not part of the key stays, and no key reaches over it. -/
theorem replaceFrom_append_cons {new a b : List Char} {c : Char} {skip : Nat} (hne : key ≠ []) (hc : c ∉ key)
    (hskip : skip ≤ a.length) :
    replaceFrom key new skip (a ++ c :: b) = replaceFrom key new skip a ++ c :: replaceFrom key new 0 b := by
  induction a generalizing skip with
  | nil =>
    obtain rfl : skip = 0 := Nat.le_zero.mp hskip
    have hstart : ¬ key <+: c :: b := fun h => hne (List.prefix_nil.mp (prefix_of_prefix_append_cons (a := []) hc h))
    simp [replaceFrom, hstart]
  | cons d a ih =>
    cases skip with
    | succ skip =>
      rw [List.cons_append, replaceFrom, replaceFrom]
      exact ih (Nat.le_of_succ_le_succ hskip)
    | zero =>
      have hstarts : key.isPrefixOf (d :: (a ++ c :: b)) = key.isPrefixOf (d :: a) := by
        rw [Bool.eq_iff_iff, List.isPrefixOf_iff_prefix, List.isPrefixOf_iff_prefix]
        exact ⟨fun h => prefix_of_prefix_append_cons (a := d :: a) hc h, fun h => h.trans (List.prefix_append (d :: a) _)⟩
      rw [List.cons_append, replaceFrom, replaceFrom, hstarts]
      split
      · next h =>
        have hle := (List.isPrefixOf_iff_prefix.mp h).length_le
        rw [ih (by simp only [List.length_cons] at hle; omega), List.append_assoc]
      · rw [ih (Nat.zero_le _), List.cons_append]

theorem without_append_cons {a b : List Char} {c : Char} (hne : key ≠ []) (hc : c ∉ key) :
    without key (a ++ c :: b) = without key a ++ c :: without key b :=
  replaceFrom_append_cons hne hc (Nat.zero_le _)

theorem without_foreign_append {a : List Char} (hne : key ≠ []) (ha : ∀ c ∈ a, c ∉ key) (s : List Char) :
    without key (a ++ s) = a ++ without key s := by
  induction a with
  | nil => rfl
  | cons c rest ih =>
    rw [List.cons_append, List.cons_append, ← ih fun d hd => ha d (List.mem_cons_of_mem c hd)]
    exact without_append_cons (a := []) hne (ha c List.mem_cons_self)

theorem without_append_foreign {b : List Char} (hne : key ≠ []) (hb : ∀ c ∈ b, c ∉ key) (s : List Char) :
    without key (s ++ b) = without key s ++ b := by
  cases b with
  | nil => rw [List.append_nil, List.append_nil]
  | cons c rest =>
    have hrest : without key rest = rest := by
      simpa [without, replaceFrom] using without_foreign_append hne (fun d hd => hb d (List.mem_cons_of_mem c hd)) []
    rw [without_append_cons hne (hb c List.mem_cons_self), hrest]

theorem without_key_append (hne : key ≠ []) (s : List Char) : without key (key ++ s) = without key s := by
  obtain ⟨c, rest, rfl⟩ := List.exists_cons_of_ne_nil hne
  have hstart : (c :: rest).isPrefixOf (c :: (rest ++ s)) = true :=
    List.isPrefixOf_iff_prefix.mpr (List.prefix_append (c :: rest) s)
  unfold without
  rw [List.cons_append, replaceFrom, if_pos hstart, List.nil_append, List.length_cons, Nat.add_sub_cancel, replaceFrom_skip]

theorem replaceFrom_sublist (key : List Char) (skip : Nat) (s : List Char) : (replaceFrom key [] skip s).Sublist s := by
  fun_induction replaceFrom key [] skip s with
  | case1 => exact List.Sublist.refl _
  | case2 skip c rest ih => exact ih.cons c
  | case3 c rest _ ih => exact ih.cons c
  | case4 c rest _ ih => exact ih.cons_cons c

theorem without_sublist (key s : List Char) : (without key s).Sublist s := replaceFrom_sublist key 0 s

/-- A text stays as it is exactly if the key does not occur in it. -/
theorem without_eq_self_iff (hne : key ≠ []) {s : List Char} : without key s = s ↔ ¬ key <:+: s := by
  induction s with
  | nil => simpa [without, replaceFrom] using hne
  | cons c rest ih =>
    rw [List.infix_cons_iff, not_or, ← ih, ← List.isPrefixOf_iff_prefix]
    unfold without
    rw [replaceFrom]
    split
    · next h =>
      -- what is left has lost a character at least
      have hle := (replaceFrom_sublist key (key.length - 1) rest).length_le
      refine ⟨fun heq => ?_, fun hnot => absurd h hnot.1⟩
      have hlength := congrArg List.length heq
      rw [List.nil_append, List.length_cons] at hlength
      omega
    · next h => simp [h]

end Without

/-- Blanks at the ends of a text make no difference for its words after a key was taken away. -/
theorem wordsFrom_without_trimList {key : List Char} (hne : key ≠ []) (hkey : ∀ c ∈ key, isBlank c = false) (s : List Char) :
    wordsFrom [] (without key (trimList s)) = wordsFrom [] (without key s) := by
  have hforeign : ∀ {b : List Char}, Blank b → ∀ c ∈ b, c ∉ key := by
    intro b hb c hc hk
    exact hb.not_mem (hkey c hk) hc
  obtain ⟨lead, trail, hs, hlead, htrail⟩ := exists_trimList_eq s
  conv_rhs => rw [hs, without_foreign_append hne (hforeign hlead), without_append_foreign hne (hforeign htrail),
    wordsFrom_blank_append hlead, wordsFrom_append_blank htrail]

end ThreatScan.Text
