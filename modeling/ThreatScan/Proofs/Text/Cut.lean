import ThreatScan.Proofs.Text.Stored
/-!
Texts cut at a separator of several characters.

A text without the separator is one piece (`cutFrom_eq_singleton`), one with it is several (`two_le_length_cutFrom`). A
character that is not in the separator cannot be cut away: what stands up to it belongs to one piece (`cutFrom_append_cons`),
and a text without that character stands on one side of it or on the other (`infix_append_cons_iff`).
-/
namespace ThreatScan.Text

variable {sep : List Char}

theorem length_consHead {c : Char} {pieces : List (List Char)} (h : pieces ≠ []) :
    (consHead c pieces).length = pieces.length := by
  cases pieces with
  | nil => exact absurd rfl h
  | cons p ps => rfl

theorem consHead_ne_nil (c : Char) (pieces : List (List Char)) : consHead c pieces ≠ [] := by
  cases pieces <;> simp [consHead]

theorem cutFrom_ne_nil (sep : List Char) (skip : Nat) (s : List Char) : cutFrom sep skip s ≠ [] := by
  fun_induction cutFrom sep skip s with
  | case1 => exact List.cons_ne_nil _ _
  | case2 _ _ _ ih => exact ih
  | case3 => exact List.cons_ne_nil _ _
  | case4 => exact consHead_ne_nil _ _

theorem cutFrom_skip (x s : List Char) : cutFrom sep x.length (x ++ s) = cutFrom sep 0 s := by
  induction x with
  | nil => rfl
  | cons c rest ih => rw [List.cons_append, List.length_cons, cutFrom, ih]

theorem cutFrom_sep_append (hne : sep ≠ []) (s : List Char) : cutFrom sep 0 (sep ++ s) = [] :: cutFrom sep 0 s := by
  cases sep with
  | nil => exact absurd rfl hne
  | cons c x =>
    have hstarts : (c :: x).isPrefixOf (c :: (x ++ s)) = true := List.isPrefixOf_iff_prefix.mpr ⟨s, rfl⟩
    rw [List.cons_append, cutFrom, if_pos hstarts, List.length_cons, Nat.add_sub_cancel, cutFrom_skip]

theorem cutFrom_eq_singleton {s : List Char} (h : ¬ sep <:+: s) : cutFrom sep 0 s = [s] := by
  induction s with
  | nil => rw [cutFrom]
  | cons c rest ih =>
    obtain ⟨hstarts, hrest⟩ := not_or.mp (mt List.infix_cons_iff.mpr h)
    rw [cutFrom, if_neg (mt List.isPrefixOf_iff_prefix.mp hstarts), ih hrest]
    rfl

theorem two_le_length_cutFrom (hne : sep ≠ []) {s : List Char} (h : sep <:+: s) : 2 ≤ (cutFrom sep 0 s).length := by
  induction s with
  | nil => exact absurd (List.infix_nil.mp h) hne
  | cons c rest ih =>
    rw [cutFrom]
    split
    · have hpos := List.length_pos_iff.mpr (cutFrom_ne_nil sep (sep.length - 1) rest)
      rw [List.length_cons]
      exact Nat.succ_le_succ hpos
    · next hstarts =>
      rw [length_consHead (cutFrom_ne_nil sep 0 rest)]
      exact ih ((List.infix_cons_iff.mp h).resolve_left (mt List.isPrefixOf_iff_prefix.mpr hstarts))

theorem prefix_of_prefix_append_cons {c : Char} {x a b : List Char} (hc : c ∉ x) (h : x <+: a ++ c :: b) : x <+: a := by
  induction a generalizing x with
  | nil =>
    cases x with
    | nil => exact List.prefix_refl _
    | cons d y => exact absurd (List.cons_prefix_cons.mp h).1 (List.ne_of_not_mem_cons hc).symm
  | cons d a ih =>
    cases x with
    | nil => exact List.nil_prefix
    | cons e y =>
      obtain ⟨rfl, hy⟩ := List.cons_prefix_cons.mp h
      exact List.cons_prefix_cons.mpr ⟨rfl, ih (List.not_mem_of_not_mem_cons hc) hy⟩

/-- What stands up to a character that is not in the separator goes to the first piece. -/
theorem cutFrom_append_cons {c : Char} {a s first : List Char} {others : List (List Char)} (hc : c ∉ sep)
    (ha : ¬ sep <:+: a) (hs : cutFrom sep 0 s = first :: others) :
    cutFrom sep 0 (a ++ c :: s) = (a ++ c :: first) :: others := by
  induction a with
  | nil =>
    have hstarts : ¬ sep <+: c :: s := fun h => ha (prefix_of_prefix_append_cons hc h).isInfix
    rw [List.nil_append, cutFrom, if_neg (mt List.isPrefixOf_iff_prefix.mp hstarts), hs]
    rfl
  | cons d a ih =>
    have hstarts : ¬ sep <+: d :: a ++ c :: s := fun h => ha (prefix_of_prefix_append_cons hc h).isInfix
    rw [List.cons_append] at hstarts
    rw [List.cons_append, cutFrom, if_neg (mt List.isPrefixOf_iff_prefix.mp hstarts),
      ih fun h => ha (List.infix_cons h)]
    rfl

theorem cutFrom_singleton (c : Char) (s : List Char) : cutFrom [c] 0 s = cutAt c s := by
  induction s with
  | nil => rfl
  | cons d rest ih =>
    rw [cutFrom, cutAt, ih]
    by_cases hd : d = c
    · rw [if_pos (by simp [hd]), if_pos hd, List.length_singleton, Nat.sub_self, ih]
    · rw [if_neg (by simpa using Ne.symm hd), if_neg hd]

/-- The first piece ends at the first separator. -/
theorem exists_cutAt_append_cons (c : Char) (a s : List Char) :
    ∃ others, cutAt c (a ++ c :: s) = a.takeWhile (· != c) :: others := by
  induction a with
  | nil => exact ⟨cutAt c s, by rw [List.nil_append, cutAt, if_pos rfl]; rfl⟩
  | cons d a ih =>
    obtain ⟨others, hcut⟩ := ih
    rw [List.cons_append, cutAt, hcut, List.takeWhile_cons]
    by_cases hd : d = c
    · exact ⟨_, by rw [if_pos hd, if_neg (by simp [hd])]⟩
    · exact ⟨others, by rw [if_neg hd, if_pos (by simpa using hd)]; rfl⟩

theorem infix_append_cons_iff {c : Char} {x a b : List Char} (hc : c ∉ x) : x <:+: a ++ c :: b ↔ x <:+: a ∨ x <:+: b := by
  rw [← exists_mem_cutAt_iff (s := a ++ c :: b) hc, ← exists_mem_cutAt_iff (s := a) hc, ← exists_mem_cutAt_iff (s := b) hc,
    cutAt_append_sep]
  simp only [List.mem_append, or_and_right, exists_or]

/-- A text that holds its first character only once does not reach into one that begins with it. -/
theorem infix_append_of_head {c : Char} {x a b : List Char} (hx : c ∉ x) (hb : ∀ d ∈ b.head?, d = c)
    (h : c :: x <:+: a ++ b) : c :: x <:+: a ∨ c :: x <:+: b := by
  induction a with
  | nil => exact .inr h
  | cons d rest ih =>
    rw [List.cons_append] at h
    rcases List.infix_cons_iff.mp h with hstart | hrest
    · left
      obtain ⟨rfl, htail⟩ := List.cons_prefix_cons.mp hstart
      have hrest : x <+: rest := by
        cases b with
        | nil => rwa [List.append_nil] at htail
        | cons e b =>
          obtain rfl : e = c := hb e rfl
          exact prefix_of_prefix_append_cons hx htail
      exact (List.cons_prefix_cons.mpr ⟨rfl, hrest⟩).isInfix
    · exact (ih hrest).imp_left List.infix_cons

/-- What holds nothing that is dropped is not touched. -/
theorem infix_dropRight_iff {drop : Char → Bool} {x s : List Char} (hx : ∀ c ∈ x, drop c = false) :
    x <:+: dropRight drop s ↔ x <:+: s := by
  constructor
  · exact fun h => h.trans (dropRight_isPrefix drop s).isInfix
  · rintro ⟨a, b, rfl⟩
    rcases List.eq_nil_or_concat x with rfl | ⟨y, c, rfl⟩
    · exact List.nil_infix
    · have hsplit : ∀ t, a ++ (y ++ [c]) ++ t = (a ++ y) ++ c :: t := fun t => by simp
      refine ⟨a, dropRight drop b, ?_⟩
      rw [List.concat_eq_append, hsplit, hsplit, dropRight_append_cons (hx c (by simp))]

end ThreatScan.Text
