import Mathlib.Data.List.Infix
import Mathlib.Data.List.TakeWhile
import ThreatScan.Text.Expect
/-!
What each step of reading a text from its front accepts.

Every step is told by the texts that it takes and leaves: a fixed text (`literal?_eq_some`), a gap (`gap?_eq_some`), a run of
accepted characters (`run?_eq_some`). The first result over the ends of a text is the one at the front if there is one
there (`firstOf?_of_some`), and there is none if no end has one (`firstOf?_eq_none`).
-/
namespace ThreatScan.Text

def IsGap (b : List Char) : Prop := b ≠ [] ∧ ∀ c ∈ b, isBlank c = true

theorem isGap_space : IsGap [' '] := ⟨List.cons_ne_nil _ _, List.forall_mem_singleton.mpr (by decide)⟩

theorem literal?_eq_some {expected : String} {s rest : List Char} :
    literal? expected s = some rest ↔ s = expected.toList ++ rest := by
  unfold literal?
  split
  · next h =>
    obtain ⟨r, rfl⟩ := List.isPrefixOf_iff_prefix.mp h
    rw [List.drop_left, Option.some.injEq, List.append_cancel_left_eq]
  · next h =>
    constructor
    · intro hn
      cases hn
    · rintro rfl
      exact absurd (List.isPrefixOf_iff_prefix.mpr (List.prefix_append _ _)) h

theorem literal?_append (expected : String) (rest : List Char) : literal? expected (expected.toList ++ rest) = some rest :=
  literal?_eq_some.mpr rfl

section Run
variable {accept : Char → Bool} {x rest s : List Char}

theorem takeWhile_append_stop (hx : ∀ c ∈ x, accept c = true) (hr : ∀ c ∈ rest.head?, accept c = false) :
    (x ++ rest).takeWhile accept = x := by
  rw [List.takeWhile_append_of_pos hx]
  cases rest with
  | nil => simp
  | cons c rest => simp [hr c rfl]

theorem dropWhile_append_stop (hx : ∀ c ∈ x, accept c = true) (hr : ∀ c ∈ rest.head?, accept c = false) :
    (x ++ rest).dropWhile accept = rest := by
  rw [List.dropWhile_append_of_pos hx]
  cases rest with
  | nil => rfl
  | cons c rest => simp [hr c rfl]

theorem head?_dropWhile_stop : ∀ c ∈ (s.dropWhile accept).head?, accept c = false := by
  intro c hc
  have hne : s.dropWhile accept ≠ [] := by
    rintro h
    rw [h] at hc
    cases hc
  have hhead := List.head_dropWhile_not (p := accept) (l := s) hne
  rw [List.head?_eq_some_head hne, Option.mem_some_iff] at hc
  exact hc ▸ hhead

theorem run?_eq_some : run? accept s = some (x, rest) ↔
    x ≠ [] ∧ (∀ c ∈ x, accept c = true) ∧ (∀ c ∈ rest.head?, accept c = false) ∧ s = x ++ rest := by
  unfold run?
  dsimp only
  constructor
  · intro h
    split at h
    · cases h
    · next hne =>
      obtain ⟨rfl, rfl⟩ := Prod.mk.inj (Option.some.inj h)
      refine ⟨by simpa using hne, fun c hc => List.mem_takeWhile_imp hc, head?_dropWhile_stop, ?_⟩
      exact List.takeWhile_append_dropWhile.symm
  · rintro ⟨hne, hx, hr, rfl⟩
    rw [takeWhile_append_stop hx hr, dropWhile_append_stop hx hr, if_neg (by simpa using hne)]

end Run

theorem gap?_eq_some {s rest : List Char} : gap? s = some rest ↔
    ∃ b, IsGap b ∧ (∀ c ∈ rest.head?, isBlank c = false) ∧ s = b ++ rest := by
  cases s with
  | nil =>
    constructor
    · intro h
      cases h
    · rintro ⟨b, ⟨hne, -⟩, -, h⟩
      exact absurd (List.append_eq_nil_iff.mp h.symm).1 hne
  | cons c s =>
    rw [gap?]
    constructor
    · intro h
      split at h
      · next hc =>
        cases h
        refine ⟨c :: s.takeWhile isBlank, ⟨by simp, ?_⟩, head?_dropWhile_stop, ?_⟩
        · intro d hd
          rcases List.mem_cons.mp hd with rfl | hd
          · exact hc
          · exact List.mem_takeWhile_imp hd
        · rw [List.cons_append, List.takeWhile_append_dropWhile]
      · cases h
    · rintro ⟨b, ⟨hne, hb⟩, hr, h⟩
      cases b with
      | nil => exact absurd rfl hne
      | cons d b =>
        rw [List.cons_append] at h
        obtain ⟨rfl, rfl⟩ := List.cons.inj h
        rw [if_pos (hb c List.mem_cons_self), dropWhile_append_stop (fun e he => hb e (List.mem_cons_of_mem c he)) hr]

/-! ## The ends of a text -/

section First
variable {α : Type} {read? : List Char → Option α} {s : List Char}

theorem firstOf?_of_some {a : α} (h : read? s = some a) : firstOf? read? s = some a := by
  cases s with
  | nil => exact h
  | cons c rest => simp only [firstOf?, h]

theorem firstOf?_eq_none : firstOf? read? s = none ↔ ∀ t, t <:+ s → read? t = none := by
  induction s with
  | nil => simp [firstOf?]
  | cons c rest ih =>
    simp only [firstOf?, List.suffix_cons_iff]
    cases h : read? (c :: rest) with
    | some a => simp [h]
    | none => simp [ih, h]

end First

end ThreatScan.Text
