import ThreatScan.Text.Case
/-!
Texts in lower case.

What a character becomes depends on the characters around it, but for one letter only; `lowerForms` lists all that it can
become. `Lowered s t` says that `t` is put together from such forms of the characters of `s`, so it splits where `s` is split
(`Lowered.append_left`). A character that is its own lower case and that of no other (`Caseless`), such as a dot or a slash,
is in the one text exactly if it is in the other (`Lowered.mem_iff`). A lower case in ASCII is the only one that the text has
(`Lowered.eq_of_ascii`).
-/
namespace ThreatScan.Text

/-- What a character can become in lower case; which of these depends on the characters around it. -/
def lowerForms (c : Char) : List (List Char) :=
  if c.toNat = 0x3A3 then [[Char.ofNat 0x3C2], [Char.ofNat 0x3C3]]
  else if c.toNat = 0x130 then [[Char.ofNat 0x69, Char.ofNat 0x307]]
  else [[lowerChar c]]

theorem lowerIn_mem_lowerForms (before : List Char) (c : Char) (after : List Char) :
    lowerIn before c after ∈ lowerForms c := by
  unfold lowerIn lowerForms
  split
  · split <;> simp
  · split <;> simp

theorem ne_nil_of_mem_lowerForms {c : Char} {form : List Char} (h : form ∈ lowerForms c) : form ≠ [] := by
  unfold lowerForms at h
  rintro rfl
  split at h
  · simp at h
  · split at h <;> simp at h

/-- The second text is put together from what the characters of the first can become. -/
inductive Lowered : List Char → List Char → Prop
  | nil : Lowered [] []
  | cons {c : Char} {form s t : List Char} (hform : form ∈ lowerForms c) (h : Lowered s t) : Lowered (c :: s) (form ++ t)

theorem lowered_lowerFrom (before s : List Char) : Lowered s (lowerFrom before s) := by
  induction s generalizing before with
  | nil => exact .nil
  | cons c rest ih => exact .cons (lowerIn_mem_lowerForms before c rest) (ih (c :: before))

theorem lowered_lower (s : String) : Lowered s.toList (lower s).toList := by
  rw [lower, String.toList_ofList]
  exact lowered_lowerFrom [] s.toList

theorem Lowered.append_left {a b t : List Char} (h : Lowered (a ++ b) t) :
    ∃ u v, t = u ++ v ∧ Lowered a u ∧ Lowered b v := by
  induction a generalizing t with
  | nil => exact ⟨[], t, rfl, .nil, h⟩
  | cons c a ih =>
    cases h with
    | @cons _ form _ t hform hrest =>
      obtain ⟨u, v, rfl, hu, hv⟩ := ih hrest
      exact ⟨form ++ u, v, (List.append_assoc form u v).symm, .cons hform hu, hv⟩

/-! ## Characters without case -/

theorem CaseRows.mem_preimages {rows : CaseRows} {n : Nat} {shift : Int} (h : rows.shift? n = some shift)
    (hpos : 0 ≤ (n : Int) + shift) : n ∈ rows.preimages ((n : Int) + shift).toNat := by
  have hback : (((n : Int) + shift).toNat : Int) = n + shift := Int.toNat_of_nonneg hpos
  induction rows with
  | nil => cases h
  | cons row rest ih =>
    obtain ⟨lo, hi, step, shift'⟩ := row
    rw [CaseRows.shift?] at h
    rw [CaseRows.preimages]
    split at h
    · cases h
    · next hlo =>
      split at h
      · next hrow =>
        cases h
        have hn : (n : Int) + shift - shift = n := by omega
        rw [hback, hn, Int.toNat_natCast, if_pos ⟨by omega, by omega, hrow.2⟩]
        exact List.mem_cons_self
      · split
        · exact List.mem_cons_of_mem _ (ih h)
        · exact ih h

/-- The character is its own lower case, and no other character has it in its lower case. -/
structure Caseless (c : Char) : Prop where
  own : lowerForms c = [[c]]
  of_mem : ∀ d, ∀ form ∈ lowerForms d, c ∈ form → d = c

theorem toNat_of_ofNat_eq {n : Nat} {c : Char} (h : Char.ofNat n = c) (hc : c.toNat ≠ 0) : n = c.toNat := by
  subst h
  by_cases hvalid : n.isValidChar
  · rw [Char.ofNat, dif_pos hvalid]
    rfl
  · rw [Char.ofNat, dif_neg hvalid] at hc
    exact absurd rfl hc

/-- A character is caseless if it is in no row, nothing is taken to it, and it is in no form of the letters that are special. -/
theorem caseless_of_rows {c : Char} (hzero : c.toNat ≠ 0) (hown : lowerRows.shift? c.toNat = none)
    (hothers : lowerRows.preimages c.toNat = [])
    (hspecial : c.toNat ∉ [0x3A3, 0x130] ∧ c ∉ [Char.ofNat 0x3C2, Char.ofNat 0x3C3, Char.ofNat 0x69, Char.ofNat 0x307]) :
    Caseless c := by
  obtain ⟨hcode, hform⟩ := hspecial
  simp only [List.mem_cons, List.not_mem_nil, or_false, not_or] at hcode hform
  have hlowerChar : ∀ d, lowerChar d = c → d = c := by
    intro d hd
    unfold lowerChar at hd
    split at hd
    · next shift hshift =>
      have hcode : ((d.toNat : Int) + shift).toNat = c.toNat := toNat_of_ofNat_eq hd hzero
      have hmem := CaseRows.mem_preimages hshift (by omega)
      rw [hcode, hothers] at hmem
      cases hmem
    · exact hd
  refine ⟨?_, fun d form hd hmem => ?_⟩
  · rw [lowerForms, if_neg hcode.1, if_neg hcode.2, lowerChar, hown]
  · unfold lowerForms at hd
    split at hd
    · simp only [List.mem_cons, List.not_mem_nil, or_false] at hd
      rcases hd with rfl | rfl <;> simp [hform] at hmem
    · split at hd
      · simp only [List.mem_singleton] at hd
        subst hd
        simp [hform] at hmem
      · simp only [List.mem_singleton] at hd
        subst hd
        exact hlowerChar d (List.mem_singleton.mp hmem).symm

theorem caseless_dot : Caseless '.' := caseless_of_rows (by decide) (by decide) (by decide) (by decide)

theorem caseless_slash : Caseless '/' := caseless_of_rows (by decide) (by decide) (by decide) (by decide)

namespace Lowered

variable {s t : List Char}

theorem mem_iff {c : Char} (hc : Caseless c) (h : Lowered s t) : c ∈ t ↔ c ∈ s := by
  induction h with
  | nil => exact Iff.rfl
  | @cons d form s t hform _ ih =>
    rw [List.mem_append, List.mem_cons, ih, eq_comm]
    refine or_congr_left ⟨fun hmem => hc.of_mem d form hform hmem, ?_⟩
    rintro rfl
    rw [hc.own, List.mem_singleton] at hform
    rw [hform]
    exact List.mem_singleton_self d

/-- A caseless character stays in its place. -/
theorem cons_left {c : Char} (hc : Caseless c) (h : Lowered (c :: s) t) : ∃ u, t = c :: u ∧ Lowered s u := by
  cases h with
  | @cons _ form _ u hform hrest =>
    rw [hc.own, List.mem_singleton] at hform
    subst hform
    exact ⟨u, rfl, hrest⟩

/-- A text with a character other than the caseless one still has such a character. -/
theorem exists_ne {c : Char} (hc : Caseless c) (h : Lowered s t) (hs : ∃ d ∈ s, d ≠ c) : ∃ d ∈ t, d ≠ c := by
  induction h with
  | nil => exact hs
  | @cons e form s t hform _ ih =>
    obtain ⟨d, hd, hne⟩ := hs
    rcases List.mem_cons.mp hd with rfl | hd
    · obtain ⟨x, hx⟩ := List.exists_mem_of_ne_nil form (ne_nil_of_mem_lowerForms hform)
      refine ⟨x, List.mem_append_left t hx, ?_⟩
      rintro rfl
      exact hne (hc.of_mem d form hform hx)
    · obtain ⟨x, hx, hxc⟩ := ih ⟨d, hd, hne⟩
      exact ⟨x, List.mem_append_right form hx, hxc⟩

/-! ## Lower case in ASCII -/

/-- A character that has a form in ASCII has no other form. -/
theorem eq_of_ascii_form {c : Char} {form other : List Char} (h : form ∈ lowerForms c) (ha : ∀ d ∈ form, d.toNat < 128)
    (h' : other ∈ lowerForms c) : other = form := by
  unfold lowerForms at h h'
  split at h
  · simp only [List.mem_cons, List.not_mem_nil, or_false] at h
    rcases h with rfl | rfl <;> exact absurd (ha _ List.mem_cons_self) (by decide)
  · next hsigma =>
    rw [if_neg hsigma] at h'
    split at h
    · next hdotted =>
      rw [if_pos hdotted] at h'
      rw [List.mem_singleton.mp h, List.mem_singleton.mp h']
    · next hdotted =>
      rw [if_neg hdotted] at h'
      rw [List.mem_singleton.mp h, List.mem_singleton.mp h']

theorem eq_of_ascii {u : List Char} (h : Lowered s t) (ha : ∀ c ∈ t, c.toNat < 128) (h' : Lowered s u) : u = t := by
  induction h generalizing u with
  | nil =>
    cases h'
    rfl
  | @cons c form s t hform _ ih =>
    cases h' with
    | @cons _ other _ u hother hrest =>
      obtain ⟨hform_ascii, ht⟩ := List.forall_mem_append.mp ha
      rw [eq_of_ascii_form hform hform_ascii hother, ih ht hrest]

end Lowered
end ThreatScan.Text
