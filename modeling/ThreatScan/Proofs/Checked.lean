import Mathlib.Data.List.Forall2
/-!
Computations that can fail: what it says that one has succeeded.

A sequence succeeds if its parts do, a pass over a list if it does on every item. The lemmas peel a success apart, so that
proofs about checked functions need not open the monad. Two computations `Agree` on a relation if they fail alike or give
related results; computations that are put together from such pairs in the same way agree too.
-/
namespace ThreatScan

section Forall₂
variable {α β : Type} {R : α → β → Prop} {xs : List α} {ys : List β}

theorem exists_right_of_forall₂ (h : List.Forall₂ R xs ys) {x : α} (hx : x ∈ xs) : ∃ y ∈ ys, R x y := by
  induction h with
  | nil => simp at hx
  | @cons z y zs ys hy _ ih =>
    rcases List.mem_cons.mp hx with rfl | hx
    · exact ⟨y, List.mem_cons_self, hy⟩
    · obtain ⟨w, hw, hr⟩ := ih hx
      exact ⟨w, List.mem_cons_of_mem y hw, hr⟩

theorem exists_left_of_forall₂ (h : List.Forall₂ R xs ys) {y : β} (hy : y ∈ ys) : ∃ x ∈ xs, R x y :=
  exists_right_of_forall₂ (R := flip R) h.flip hy

/-- A list from which a partial function takes the items that pass a test, each to one that it is related to. -/
theorem forall₂_filter_filterMap {p : α → Prop} [DecidablePred p] {f : α → Option β}
    {as : List α} (hp : ∀ a ∈ as, p a → ∃ b, f a = some b ∧ R a b) (hn : ∀ a ∈ as, ¬ p a → f a = none) :
    List.Forall₂ R (as.filter p) (as.filterMap f) := by
  induction as with
  | nil => exact .nil
  | cons a rest ih =>
    have ih := ih (fun b hb => hp b (List.mem_cons_of_mem a hb)) (fun b hb => hn b (List.mem_cons_of_mem a hb))
    by_cases h : p a
    · obtain ⟨b, hb, hr⟩ := hp a List.mem_cons_self h
      rw [List.filter_cons_of_pos (by simpa using h), List.filterMap_cons_some hb]
      exact .cons hr ih
    · rw [List.filter_cons_of_neg (by simpa using h), List.filterMap_cons_none (hn a List.mem_cons_self h)]
      exact ih

end Forall₂

namespace Checked

variable {ε α β : Type}

theorem bind_eq_ok {x : Except ε α} {f : α → Except ε β} {b : β} :
    (x >>= f) = .ok b ↔ ∃ a, x = .ok a ∧ f a = .ok b := by
  cases x with
  | error e =>
    constructor
    · intro h
      cases h
    · rintro ⟨a, ha, -⟩
      cases ha
  | ok a =>
    constructor
    · intro h
      exact ⟨a, rfl, h⟩
    · rintro ⟨a', ha, h⟩
      cases ha
      exact h

theorem ok_bind (a : α) (f : α → Except ε β) : (Except.ok a >>= f) = f a := rfl

theorem pure_eq_ok {a b : α} : (pure a : Except ε α) = .ok b ↔ a = b :=
  ⟨Except.ok.inj, congrArg Except.ok⟩

theorem mapM_eq_ok {f : α → Except ε β} {xs : List α} {ys : List β} :
    xs.mapM f = .ok ys ↔ List.Forall₂ (fun x y => f x = .ok y) xs ys := by
  induction xs generalizing ys with
  | nil => rw [List.mapM_nil, pure_eq_ok, List.forall₂_nil_left_iff, eq_comm]
  | cons x rest ih =>
    rw [List.mapM_cons, bind_eq_ok, List.forall₂_cons_left_iff]
    constructor
    · rintro ⟨y, hy, h⟩
      obtain ⟨zs, hz, hp⟩ := bind_eq_ok.mp h
      exact ⟨y, zs, hy, ih.mp hz, (pure_eq_ok.mp hp).symm⟩
    · rintro ⟨y, zs, hy, hz, rfl⟩
      exact ⟨y, hy, bind_eq_ok.mpr ⟨zs, ih.mpr hz, rfl⟩⟩

theorem mem_iff_of_mapM_eq_ok {f : α → Except ε β} {xs : List α} {ys : List β} (h : xs.mapM f = .ok ys) (y : β) :
    y ∈ ys ↔ ∃ x ∈ xs, f x = .ok y := by
  induction mapM_eq_ok.mp h with
  | nil => simp
  | @cons x z xs ys hz hrest ih =>
    rw [List.mem_cons, ih (mapM_eq_ok.mpr hrest)]
    simp [hz, eq_comm]

theorem exists_of_mapM_eq_ok {f : α → Except ε β} {xs : List α} {ys : List β} (h : xs.mapM f = .ok ys) {x : α}
    (hx : x ∈ xs) : ∃ y, f x = .ok y := by
  obtain ⟨y, -, hy⟩ := exists_right_of_forall₂ (mapM_eq_ok.mp h) hx
  exact ⟨y, hy⟩

theorem exists_mapM_eq_ok {f : α → Except ε β} {xs : List α} (h : ∀ x ∈ xs, ∃ y, f x = .ok y) :
    ∃ ys, xs.mapM f = .ok ys := by
  induction xs with
  | nil => exact ⟨[], rfl⟩
  | cons x rest ih =>
    obtain ⟨y, hy⟩ := h x List.mem_cons_self
    obtain ⟨ys, hys⟩ := ih fun z hz => h z (List.mem_cons_of_mem x hz)
    exact ⟨y :: ys, mapM_eq_ok.mpr (.cons hy (mapM_eq_ok.mp hys))⟩

theorem exists_of_mapM_eq_error {f : α → Except ε β} {xs : List α} {e : ε} (h : xs.mapM f = .error e) : ∃ x ∈ xs, f x = .error e := by
  induction xs with
  | nil => cases h
  | cons x rest ih =>
    rw [List.mapM_cons] at h
    cases hx : f x with
    | error e' =>
      rw [hx] at h
      cases h
      exact ⟨x, List.mem_cons_self, hx⟩
    | ok y =>
      rw [hx, ok_bind] at h
      cases hrest : rest.mapM f with
      | error e' =>
        rw [hrest] at h
        cases h
        obtain ⟨z, hz, hfails⟩ := ih hrest
        exact ⟨z, List.mem_cons_of_mem x hz, hfails⟩
      | ok ys =>
        rw [hrest] at h
        cases h

theorem filterAuxM_eq_ok {p : α → Except ε Bool} {xs acc ys : List α} (h : xs.filterAuxM p acc = .ok ys) :
    ys = (xs.filter fun x => (p x).toOption == some true).reverse ++ acc := by
  induction xs generalizing acc with
  | nil => exact (pure_eq_ok.mp h).symm
  | cons x rest ih =>
    rw [List.filterAuxM] at h
    obtain ⟨b, hb, h⟩ := bind_eq_ok.mp h
    rw [ih h]
    cases b with
    | true => simp [hb, Except.toOption]
    | false => simp [hb, Except.toOption]

theorem filterM_eq_ok {p : α → Except ε Bool} {xs ys : List α} (h : xs.filterM p = .ok ys) :
    ys = xs.filter fun x => (p x).toOption == some true := by
  obtain ⟨zs, hz, hp⟩ := bind_eq_ok.mp h
  rw [← pure_eq_ok.mp hp, filterAuxM_eq_ok hz]
  simp

theorem exists_filterAuxM_eq_ok {p : α → Except ε Bool} {xs : List α} (h : ∀ x ∈ xs, ∃ b, p x = .ok b) (acc : List α) :
    ∃ ys, xs.filterAuxM p acc = .ok ys := by
  induction xs generalizing acc with
  | nil => exact ⟨acc, rfl⟩
  | cons x rest ih =>
    obtain ⟨b, hb⟩ := h x List.mem_cons_self
    obtain ⟨ys, hys⟩ := ih (fun z hz => h z (List.mem_cons_of_mem x hz)) (cond b (x :: acc) acc)
    exact ⟨ys, by rw [List.filterAuxM]; exact bind_eq_ok.mpr ⟨b, hb, hys⟩⟩

theorem exists_filterM_eq_ok {p : α → Except ε Bool} {xs : List α} (h : ∀ x ∈ xs, ∃ b, p x = .ok b) :
    ∃ ys, xs.filterM p = .ok ys := by
  obtain ⟨ys, hys⟩ := exists_filterAuxM_eq_ok h []
  exact ⟨ys.reverse, bind_eq_ok.mpr ⟨ys, hys, rfl⟩⟩

theorem toOption_eq_some {x : Except ε α} {a : α} : x.toOption = some a ↔ x = .ok a := by
  cases x <;> simp [Except.toOption]

/-! ## Two computations -/

/-- Both computations fail with the same error, or both succeed with related results. -/
def Agree (R : α → β → Prop) : Except ε α → Except ε β → Prop
  | .ok a, .ok b => R a b
  | .error e, .error f => e = f
  | _, _ => False

namespace Agree
variable {R : α → β → Prop} {x : Except ε α} {y : Except ε β}

theorem refl {R : α → α → Prop} (h : ∀ a, R a a) (x : Except ε α) : Agree R x x := by
  cases x with
  | error e => exact rfl
  | ok a => exact h a

theorem pure' {a : α} {b : β} (h : R a b) : Agree R (pure a : Except ε α) (pure b) := h

theorem bind' {γ δ : Type} {S : γ → δ → Prop} {f : α → Except ε γ} {g : β → Except ε δ} (h : Agree R x y)
    (hfg : ∀ a b, R a b → Agree S (f a) (g b)) : Agree S (x >>= f) (y >>= g) := by
  cases x with
  | error e =>
    cases y with
    | error f => exact h
    | ok b => exact h.elim
  | ok a =>
    cases y with
    | error f => exact h.elim
    | ok b => exact hfg a b h

theorem mapM {γ δ : Type} {S : γ → δ → Prop} {f : γ → Except ε α} {g : δ → Except ε β} {xs : List γ} {ys : List δ}
    (h : List.Forall₂ S xs ys) (hfg : ∀ a b, S a b → Agree R (f a) (g b)) :
    Agree (List.Forall₂ R) (xs.mapM f) (ys.mapM g) := by
  induction h with
  | nil => exact List.Forall₂.nil
  | @cons a b xs ys hab _ ih =>
    rw [List.mapM_cons, List.mapM_cons]
    exact bind' (hfg a b hab) fun c d hcd => bind' ih fun cs ds hcs => List.Forall₂.cons hcd hcs

theorem trans {γ : Type} {S : β → γ → Prop} {T : α → γ → Prop} {z : Except ε γ} (h : Agree R x y) (h' : Agree S y z)
    (hT : ∀ a b c, R a b → S b c → T a c) : Agree T x z := by
  cases x with
  | error e =>
    cases y with
    | error f =>
      cases z with
      | error g => exact Eq.trans h h'
      | ok c => exact h'.elim
    | ok b => exact h.elim
  | ok a =>
    cases y with
    | error f => exact h.elim
    | ok b =>
      cases z with
      | error g => exact h'.elim
      | ok c => exact hT a b c h h'

/-- A pass that can fail in one way only fails in any order of the items, or has the same results in another order. -/
theorem mapM_perm {f : α → Except ε β} {e : ε} {xs ys : List α} (h : xs.Perm ys)
    (he : ∀ x ∈ xs, ∀ e', f x = .error e' → e' = e) : Agree List.Perm (xs.mapM f) (ys.mapM f) := by
  induction h with
  | nil => exact List.Perm.nil
  | cons x _ ih =>
    rw [List.mapM_cons, List.mapM_cons]
    refine bind' (refl (fun _ => rfl) (f x)) fun a b hab => ?_
    exact bind' (ih fun z hz => he z (List.mem_cons_of_mem x hz)) fun as bs hs => pure' (hab ▸ hs.cons a)
  | swap x y rest =>
    simp only [List.mapM_cons, bind_assoc]
    cases hx : f x with
    | error e₁ =>
      cases hy : f y with
      | error e₂ =>
        have h₁ := he x (List.mem_cons_of_mem y List.mem_cons_self) e₁ hx
        exact (he y List.mem_cons_self e₂ hy).trans h₁.symm
      | ok b => exact rfl
    | ok a =>
      cases hy : f y with
      | error e₂ => exact rfl
      | ok b =>
        simp only [ok_bind]
        exact bind' (refl (fun _ => List.Perm.refl _) (rest.mapM f)) fun as bs hs =>
          (List.Perm.swap a b as).trans ((hs.cons b).cons a)
  | trans h _ ih ih' =>
    have hrest := ih' fun z hz => he z (h.mem_iff.mpr hz)
    exact (ih he).trans hrest fun _ _ _ => List.Perm.trans

theorem eq {x y : Except ε α} (h : Agree Eq x y) : x = y := by
  cases x with
  | error e =>
    cases y with
    | error f => exact congrArg Except.error h
    | ok b => exact h.elim
  | ok a =>
    cases y with
    | error f => exact h.elim
    | ok b => exact congrArg Except.ok h

theorem exists_ok (h : Agree R x y) {a : α} (hx : x = .ok a) : ∃ b, y = .ok b ∧ R a b := by
  subst hx
  cases y with
  | error e => exact h.elim
  | ok b => exact ⟨b, rfl, h⟩

theorem error_iff (h : Agree R x y) (e : ε) : x = .error e ↔ y = .error e := by
  cases x with
  | error f =>
    cases y with
    | error g => rw [show f = g from h]; simp
    | ok b => exact h.elim
  | ok a =>
    cases y with
    | error g => exact h.elim
    | ok b => simp

end Agree
end Checked
end ThreatScan
