import ThreatScan.Page.BatchView
import ThreatScan.Proofs.Checked
import ThreatScan.Proofs.Host.Act
/-!
Parts of a page that are sure to be shown.

`OnlyAdds x` says that all that the action `x` does to a visit is to add events, whether it fails or not; `Displays x` says
that it moreover comes to a result, in every visit. Both pass from the parts of an action to the whole, and a box displays if
what is put into it does. What may fail displays once its failure is caught (`Displays.attempt`). `LeadsTo x y` says that `x`
displays something and then does what `y` does.
-/
namespace ThreatScan.Page

variable {α β : Type}

def outcome (x : Page α) (v : Visit) : Except Failure α × Visit := x.run.run v

def Gives (x : Page α) (v : Visit) (a : α) (v' : Visit) : Prop := outcome x v = (.ok a, v')

section Bind
variable {x : Page α} {f : α → Page β} {v v' : Visit}

theorem outcome_bind : outcome (x >>= f) v = match outcome x v with
    | (.ok a, v₁) => outcome (f a) v₁
    | (.error e, v₁) => (.error e, v₁) := by
  have hrun : outcome (x >>= f) v = ExceptT.bindCont f (outcome x v).1 (outcome x v).2 := rfl
  rw [hrun]
  rcases outcome x v with ⟨e | a, v₁⟩
  · rfl
  · rfl

theorem gives_bind {b : β} : Gives (x >>= f) v b v' ↔ ∃ a v₁, Gives x v a v₁ ∧ Gives (f a) v₁ b v' := by
  unfold Gives
  rw [outcome_bind]
  rcases outcome x v with ⟨e | a, v₁⟩
  · simp
  · simp [and_assoc]

end Bind

theorem gives_valid {x : Except Fault α} {a : α} (hx : x = .ok a) (v : Visit) : Gives (valid x) v a v := by
  rw [hx]
  rfl

theorem outcome_onHost (x : Act α) (v : Visit) :
    outcome (onHost x) v = ((x.outcome v.host).1, { v with host := (x.outcome v.host).2 }) := rfl

theorem gives_onHost {x : Act α} {v : Visit} {a : α} {h' : Host} (hx : Act.Gives x v.host a h') :
    Gives (onHost x) v a { v with host := h' } := by
  rw [Gives, outcome_onHost, hx]

theorem gives_attempt (x : Page α) (v : Visit) : Gives (attempt x) v (outcome x v).1 (outcome x v).2 := rfl

/-! ## What only adds events -/

def Visit.adding (v : Visit) (more : List Event) : Visit := { v with events := v.events ++ more }

theorem Visit.adding_nil (v : Visit) : v.adding [] = v := by rw [adding, List.append_nil]

theorem Visit.adding_adding (v : Visit) (more others : List Event) : (v.adding more).adding others = v.adding (more ++ others) := by
  rw [adding, adding, adding, List.append_assoc]

/-- What goes into a box is put between its opening and its closing, also if it fails. -/
theorem outcome_within (box : String) (x : Page α) (v : Visit) : outcome (within box x) v =
    ((outcome x (v.adding [.enter box])).1, (outcome x (v.adding [.enter box])).2.adding [.leave box]) := rfl

def OnlyAdds (x : Page α) : Prop := ∀ v, ∃ more, (outcome x v).2 = v.adding more

namespace OnlyAdds

theorem pure' (a : α) : OnlyAdds (pure a) := fun v => ⟨[], v.adding_nil.symm⟩

theorem fail (e : Failure) : OnlyAdds (fail e : Page α) := fun v => ⟨[], v.adding_nil.symm⟩

theorem get' : OnlyAdds get := fun v => ⟨[], v.adding_nil.symm⟩

theorem record (e : Event) : OnlyAdds (record e) := fun _ => ⟨[e], rfl⟩

theorem valid (x : Except Fault α) : OnlyAdds (valid x) := by
  cases x with
  | ok a => exact pure' a
  | error f => exact fail (.fault f)

theorem bind' {x : Page α} {f : α → Page β} (hx : OnlyAdds x) (hf : ∀ a, OnlyAdds (f a)) : OnlyAdds (x >>= f) := by
  intro v
  obtain ⟨more, hx⟩ := hx v
  rw [outcome_bind]
  rcases hrun : outcome x v with ⟨e | a, v₁⟩
  · rw [hrun] at hx
    exact ⟨more, hx⟩
  · rw [hrun] at hx
    obtain rfl : v₁ = v.adding more := hx
    obtain ⟨others, hf⟩ := hf a (v.adding more)
    exact ⟨more ++ others, hf.trans (v.adding_adding more others)⟩

theorem ite' {c : Prop} [Decidable c] {x y : Page α} (hx : OnlyAdds x) (hy : OnlyAdds y) :
    OnlyAdds (if c then x else y) := by
  split
  · exact hx
  · exact hy

theorem attempt {x : Page α} (hx : OnlyAdds x) : OnlyAdds (attempt x) := fun v => hx v

theorem within {x : Page α} (box : String) (hx : OnlyAdds x) : OnlyAdds (within box x) := by
  intro v
  obtain ⟨more, hx⟩ := hx (v.adding [.enter box])
  refine ⟨[.enter box] ++ (more ++ [.leave box]), ?_⟩
  rw [outcome_within, hx, Visit.adding_adding, Visit.adding_adding]

theorem expander {x : Page α} (title : String) (hx : OnlyAdds x) : OnlyAdds (expander title x) :=
  bind' (record _) fun _ => within "expander" hx

theorem forM {f : α → Page Unit} (hf : ∀ a, OnlyAdds (f a)) (xs : List α) : OnlyAdds (xs.forM f) := by
  induction xs with
  | nil => exact pure' ()
  | cons x rest ih =>
    show OnlyAdds (f x >>= fun _ => rest.forM f)
    exact bind' (hf x) fun _ => ih

theorem mapM {f : α → Page β} (hf : ∀ a, OnlyAdds (f a)) (xs : List α) : OnlyAdds (xs.mapM f) := by
  induction xs with
  | nil => exact pure' []
  | cons x rest ih =>
    rw [List.mapM_cons]
    exact bind' (hf x) fun b => bind' ih fun bs => pure' _

end OnlyAdds

def Displays (x : Page α) : Prop := ∀ v, ∃ a more, Gives x v a (v.adding more)

namespace Displays

theorem pure' (a : α) : Displays (pure a) := by
  intro v
  refine ⟨a, [], ?_⟩
  rw [v.adding_nil]
  rfl

theorem get' : Displays get := by
  intro v
  refine ⟨v, [], ?_⟩
  rw [v.adding_nil]
  rfl

theorem record (e : Event) : Displays (record e) := fun _ => ⟨(), [e], rfl⟩

theorem bind' {x : Page α} {f : α → Page β} (hx : Displays x) (hf : ∀ a, Displays (f a)) : Displays (x >>= f) := by
  intro v
  obtain ⟨a, more, ha⟩ := hx v
  obtain ⟨b, others, hb⟩ := hf a (v.adding more)
  rw [v.adding_adding] at hb
  exact ⟨b, more ++ others, gives_bind.mpr ⟨a, _, ha, hb⟩⟩

theorem valid_bind {x : Except Fault α} {a : α} {f : α → Page β} (hx : x = .ok a) (hf : Displays (f a)) :
    Displays (valid x >>= f) := by
  rw [hx]
  exact hf

theorem get_bind {fields : List (String × Value)} {key : String} {default : Value} {f : Value → Page β}
    (hf : ∀ w, Displays (f w)) : Displays (valid ((Value.dict fields).get key default) >>= f) :=
  valid_bind rfl (hf _)

theorem ite' {c : Prop} [Decidable c] {x y : Page α} (hx : c → Displays x) (hy : ¬c → Displays y) :
    Displays (if c then x else y) := by
  by_cases h : c
  · rw [if_pos h]
    exact hx h
  · rw [if_neg h]
    exact hy h

theorem attempt {x : Page α} (hx : OnlyAdds x) : Displays (attempt x) := by
  intro v
  obtain ⟨more, hx⟩ := hx v
  refine ⟨(outcome x v).1, more, ?_⟩
  rw [← hx]
  exact gives_attempt x v

theorem within {x : Page α} (box : String) (hx : Displays x) : Displays (within box x) := by
  intro v
  obtain ⟨a, more, ha⟩ := hx (v.adding [.enter box])
  refine ⟨a, [.enter box] ++ more ++ [.leave box], ?_⟩
  rw [Gives, outcome_within, ha, Visit.adding_adding, Visit.adding_adding]

theorem forM {f : α → Page Unit} {xs : List α} (hf : ∀ a ∈ xs, Displays (f a)) : Displays (xs.forM f) := by
  induction xs with
  | nil => exact pure' ()
  | cons x rest ih =>
    show Displays (f x >>= fun _ => rest.forM f)
    exact bind' (hf x List.mem_cons_self) fun _ => ih fun a ha => hf a (List.mem_cons_of_mem x ha)

theorem mapM {f : α → Page β} {xs : List α} (hf : ∀ a ∈ xs, Displays (f a)) : Displays (xs.mapM f) := by
  induction xs with
  | nil => exact pure' []
  | cons x rest ih =>
    rw [List.mapM_cons]
    exact bind' (hf x List.mem_cons_self) fun b => bind' (ih fun a ha => hf a (List.mem_cons_of_mem x ha)) fun bs => pure' _

end Displays

/-- The first action displays something and then does what the second does. -/
def LeadsTo (x y : Page α) : Prop := ∀ v, ∃ more, outcome x v = outcome y (v.adding more)

namespace LeadsTo

theorem self (x : Page α) : LeadsTo x x := fun v => ⟨[], by rw [v.adding_nil]⟩

theorem bind' {x : Page α} {f : α → Page β} {y : Page β} (hx : Displays x) (hf : ∀ a, LeadsTo (f a) y) :
    LeadsTo (x >>= f) y := by
  intro v
  obtain ⟨a, more, ha⟩ := hx v
  obtain ⟨others, hothers⟩ := hf a (v.adding more)
  rw [v.adding_adding] at hothers
  refine ⟨more ++ others, ?_⟩
  rw [outcome_bind, ha]
  exact hothers

theorem valid_bind {x : Except Fault α} {a : α} {f : α → Page β} {y : Page β} (hx : x = .ok a) (hf : LeadsTo (f a) y) :
    LeadsTo (valid x >>= f) y := by
  rw [hx]
  exact hf

end LeadsTo

end ThreatScan.Page
