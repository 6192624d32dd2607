import ThreatScan.Hook.Watch
/-!
Monitors installed on top of one another.

A course of actions makes monitors, installs and removes them, by their numbers or through the process-wide functions.
Beside the watch, a `Course` keeps the numbers of the installed monitors, the one installed last in front. A course is
`Disciplined` if every removal that takes effect is that of the monitor in front.

What is proved: along a disciplined course every place holds the hook of the monitor in front, or the function that was
there from the start when no monitor is installed; no monitor ever saves its own hook; and when all are removed all places
are as they were (`stacked_run`, `places_hold_latest_hook`). A course that installs and removes only one monitor is
disciplined whatever it does (`disciplined_of_single`).
-/
namespace ThreatScan.Hook

inductive Action where
  | make (destination : Destination)
  | install (n : Nat)
  | uninstall (n : Nat)
  | installShared (destination : Destination)
  | uninstallShared
  deriving DecidableEq, Repr

namespace Watch

def isInstalled (w : Watch) (n : Nat) : Bool := (w.monitors[n]?).any fun m => m.installed

def act (w : Watch) (m : Moment) : Action → Watch
  | .make destination => w.add (.fresh destination)
  | .install n => w.install m n
  | .uninstall n => w.uninstall m n
  | .installShared destination => w.installShared m destination
  | .uninstallShared => w.uninstallShared m

def installs? (w : Watch) : Action → Option Nat
  | .install n => if (w.monitors[n]?).any fun m => !m.installed then some n else none
  | .installShared _ => some w.monitors.length
  | _ => none

def removes? (w : Watch) : Action → Option Nat
  | .uninstall n => if w.isInstalled n then some n else none
  | .uninstallShared => w.shared.filter w.isInstalled
  | _ => none

end Watch

/-- A watch, and the numbers of the monitors installed on it, the one installed last in front. -/
structure Course where
  watch : Watch
  order : List Nat

namespace Course

def start (d : Disk) : Course := ⟨.start d, []⟩

/-- One action. A monitor that is installed comes to the front; one that is removed is taken out, wherever it stands. -/
def next (c : Course) (m : Moment) (a : Action) : Course where
  watch := c.watch.act m a
  order :=
    match c.watch.installs? a, c.watch.removes? a with
    | some n, _ => n :: c.order
    | none, some n => c.order.erase n
    | none, none => c.order

def run (c : Course) (steps : List (Moment × Action)) : Course := steps.foldl (fun c s => c.next s.1 s.2) c

def upTo (d : Disk) (steps : List (Moment × Action)) (k : Nat) : Course := (start d).run (steps.take k)

/-- Every removal that takes effect is that of the monitor installed last. -/
def Disciplined (c : Course) : List (Moment × Action) → Prop
  | [] => True
  | (m, a) :: rest => (∀ n ∈ c.watch.removes? a, c.order.head? = some n) ∧ (c.next m a).Disciplined rest

instance decidableDisciplined : ∀ (c : Course) (steps : List (Moment × Action)), Decidable (c.Disciplined steps)
  | _, [] => inferInstanceAs (Decidable True)
  | c, (m, a) :: rest =>
    have := decidableDisciplined (c.next m a) rest
    inferInstanceAs (Decidable ((∀ n ∈ c.watch.removes? a, c.order.head? = some n) ∧ (c.next m a).Disciplined rest))

end Course

/-- What the places hold under the monitors of a list. -/
def holder : List Nat → Handler
  | [] => .real
  | n :: _ => .hook n

/-- Each monitor of the list is installed once and saved what the places held under the ones behind it. -/
def Layered (monitors : List Monitor) : List Nat → Prop
  | [] => True
  | n :: rest => (∃ m, monitors[n]? = some m ∧ m.installed = true ∧ ∀ p, m.saved p = some (holder rest)) ∧ n ∉ rest ∧
      Layered monitors rest

structure Stacked (c : Course) : Prop where
  layered : Layered c.watch.monitors c.order
  places : ∀ p, c.watch.places p = holder c.order
  mem_order : ∀ n, c.watch.isInstalled n = true → n ∈ c.order
  saved : ∀ (n : Nat) (m : Monitor), c.watch.monitors[n]? = some m → ∀ p, m.saved p ≠ some (.hook n)

/-! ## What logging leaves alone -/

namespace Watch
variable (w : Watch) (m : Moment) (n : Nat)

theorem write_frame (destination : Destination) (line : String) :
    (w.write destination line).monitors = w.monitors ∧ (w.write destination line).places = w.places := by
  unfold write
  split
  · exact ⟨rfl, rfl⟩
  · split <;> exact ⟨rfl, rfl⟩

theorem log_frame (message : String) :
    (w.log m n message).monitors = w.monitors ∧ (w.log m n message).places = w.places := by
  unfold log
  split
  · exact w.write_frame _ _
  · exact ⟨rfl, rfl⟩

/-! ## What installing and removing do -/

variable {w n} {monitor : Monitor}

theorem install_of_fresh (h : w.monitors[n]? = some monitor) (hi : monitor.installed = false) :
    (w.install m n).monitors = w.monitors.set n { monitor with installed := true, saved := fun p => some (w.places p) } ∧
    (w.install m n).places = fun _ => .hook n := by
  unfold install
  rw [h]
  simp only [hi, Bool.false_eq_true, if_false]
  exact log_frame _ _ _ _

theorem install_of_not (h : (w.monitors[n]?.any fun m => !m.installed) = false) : w.install m n = w := by
  unfold install
  cases hm : w.monitors[n]? with
  | none => rfl
  | some monitor =>
    rw [hm] at h
    have hi : monitor.installed = true := by simpa using h
    simp only [hi, if_true]

theorem uninstall_of_installed (h : w.monitors[n]? = some monitor) (hi : monitor.installed = true) :
    (w.uninstall m n).monitors = w.monitors.set n { monitor with installed := false } ∧
    (w.uninstall m n).places = fun p => (monitor.saved p).getD (w.places p) := by
  unfold uninstall
  rw [h]
  simp only [hi, if_true]
  exact log_frame _ _ _ _

theorem uninstall_of_not (h : w.isInstalled n = false) : w.uninstall m n = w := by
  unfold uninstall
  unfold isInstalled at h
  cases hm : w.monitors[n]? with
  | none => rfl
  | some monitor =>
    rw [hm] at h
    have hi : monitor.installed = false := by simpa using h
    simp only [hi, Bool.false_eq_true, if_false]

theorem isInstalled_iff : w.isInstalled n = true ↔ ∃ monitor, w.monitors[n]? = some monitor ∧ monitor.installed = true := by
  simp [isInstalled, Option.any_eq_true]

end Watch

/-! ## One step of a stack -/

theorem Layered.mem {monitors : List Monitor} {order : List Nat} (h : Layered monitors order) {n : Nat} (hn : n ∈ order) :
    ∃ m, monitors[n]? = some m ∧ m.installed = true := by
  induction order with
  | nil => simp at hn
  | cons k rest ih =>
    obtain ⟨⟨m, hm, hi, -⟩, -, hrest⟩ := h
    rcases List.mem_cons.mp hn with rfl | hn
    · exact ⟨m, hm, hi⟩
    · exact ih hrest hn

/-- A stack is about its own monitors only. -/
theorem Layered.congr {monitors monitors' : List Monitor} {order : List Nat} (h : Layered monitors order)
    (hsame : ∀ n ∈ order, monitors'[n]? = monitors[n]?) : Layered monitors' order := by
  induction order with
  | nil => trivial
  | cons k rest ih =>
    obtain ⟨⟨m, hm, hi, hs⟩, hk, hrest⟩ := h
    refine ⟨⟨m, ?_, hi, hs⟩, hk, ih hrest fun n hn => hsame n (List.mem_cons_of_mem k hn)⟩
    rw [hsame k List.mem_cons_self]
    exact hm

theorem holder_ne_hook {order : List Nat} {n : Nat} (h : n ∉ order) : holder order ≠ .hook n := by
  cases order with
  | nil => simp [holder]
  | cons k rest =>
    intro he
    simp only [holder, Handler.hook.injEq] at he
    exact h (he ▸ List.mem_cons_self)

theorem getElem?_set_cases {monitors : List Monitor} {n k : Nat} {changed m : Monitor}
    (h : (monitors.set n changed)[k]? = some m) : k = n ∧ m = changed ∨ k ≠ n ∧ monitors[k]? = some m := by
  by_cases hk : k = n
  · subst hk
    obtain ⟨hlt, -⟩ := List.getElem?_eq_some_iff.mp h
    rw [List.length_set] at hlt
    rw [List.getElem?_set_self hlt] at h
    exact .inl ⟨rfl, (Option.some.inj h).symm⟩
  · rw [List.getElem?_set_ne (Ne.symm hk)] at h
    exact .inr ⟨hk, h⟩

theorem getElem?_concat_cases {monitors : List Monitor} {k : Nat} {new m : Monitor}
    (h : (monitors ++ [new])[k]? = some m) : m = new ∨ monitors[k]? = some m := by
  rw [List.getElem?_append] at h
  split at h
  · exact .inr h
  · have hm : m ∈ [new] := List.mem_of_getElem? h
    exact .inl (by simpa using hm)

section Step
variable {w : Watch} {order : List Nat} (m : Moment)

theorem Stacked.add (h : Stacked ⟨w, order⟩) (destination : Destination) (shared : Option Nat) :
    Stacked ⟨{ w.add (.fresh destination) with shared := shared }, order⟩ := by
  have hlt : ∀ n ∈ order, n < w.monitors.length := by
    intro n hn
    obtain ⟨monitor, hm, -⟩ := h.layered.mem hn
    exact (List.getElem?_eq_some_iff.mp hm).1
  constructor
  · exact h.layered.congr fun n hn => List.getElem?_append_left (hlt n hn)
  · exact h.places
  · intro n hn
    obtain ⟨monitor, hm, hi⟩ := Watch.isInstalled_iff.mp hn
    rcases getElem?_concat_cases hm with rfl | hm
    · simp [Monitor.fresh] at hi
    · exact h.mem_order n (Watch.isInstalled_iff.mpr ⟨monitor, hm, hi⟩)
  · intro n monitor hm p
    rcases getElem?_concat_cases hm with rfl | hm
    · simp [Monitor.fresh]
    · exact h.saved n monitor hm p

theorem Stacked.install (h : Stacked ⟨w, order⟩) {n : Nat} {monitor : Monitor} (hm : w.monitors[n]? = some monitor)
    (hi : monitor.installed = false) : Stacked ⟨w.install m n, n :: order⟩ := by
  obtain ⟨hmon, hpl⟩ := Watch.install_of_fresh m hm hi
  have hlt : n < w.monitors.length := (List.getElem?_eq_some_iff.mp hm).1
  have hn : n ∉ order := by
    intro hn
    obtain ⟨k, hk, hki⟩ := h.layered.mem hn
    rw [hm] at hk
    cases hk
    simp [hi] at hki
  have hne : ∀ k ∈ order, n ≠ k := fun k hk e => hn (by rw [e]; exact hk)
  constructor
  · refine ⟨⟨{ monitor with installed := true, saved := fun p => some (w.places p) }, ?_, rfl, ?_⟩, hn, ?_⟩
    · rw [hmon, List.getElem?_set_self hlt]
    · intro p
      exact congrArg some (h.places p)
    · refine h.layered.congr fun k hk => ?_
      rw [hmon, List.getElem?_set_ne (hne k hk)]
  · intro p
    exact congrFun hpl p
  · intro k hk
    obtain ⟨mk, hmk, hik⟩ := Watch.isInstalled_iff.mp hk
    rw [hmon] at hmk
    rcases getElem?_set_cases hmk with ⟨rfl, -⟩ | ⟨-, hmk⟩
    · exact List.mem_cons_self
    · exact List.mem_cons_of_mem n (h.mem_order k (Watch.isInstalled_iff.mpr ⟨mk, hmk, hik⟩))
  · intro k mk hmk p
    rw [hmon] at hmk
    rcases getElem?_set_cases hmk with ⟨rfl, rfl⟩ | ⟨-, hmk⟩
    · -- what stood at the places is the hook of a monitor below, or no hook
      intro he
      exact holder_ne_hook hn ((h.places p).symm.trans (Option.some.inj he))
    · exact h.saved k mk hmk p

theorem Stacked.uninstall {n : Nat} (h : Stacked ⟨w, n :: order⟩) : Stacked ⟨w.uninstall m n, order⟩ := by
  obtain ⟨⟨monitor, hm, hi, hs⟩, hn, hrest⟩ := h.layered
  obtain ⟨hmon, hpl⟩ := Watch.uninstall_of_installed m hm hi
  have hne : ∀ k ∈ order, n ≠ k := fun k hk e => hn (by rw [e]; exact hk)
  constructor
  · refine hrest.congr fun k hk => ?_
    rw [hmon, List.getElem?_set_ne (hne k hk)]
  · -- it gives back what it saved, which is what the monitors behind it leave at the places
    intro p
    simp only [hpl, hs p, Option.getD_some]
  · intro k hk
    obtain ⟨mk, hmk, hik⟩ := Watch.isInstalled_iff.mp hk
    rw [hmon] at hmk
    rcases getElem?_set_cases hmk with ⟨-, rfl⟩ | ⟨hkn, hmk⟩
    · simp at hik
    · exact List.mem_of_ne_of_mem hkn (h.mem_order k (Watch.isInstalled_iff.mpr ⟨mk, hmk, hik⟩))
  · intro k mk hmk p
    rw [hmon] at hmk
    rcases getElem?_set_cases hmk with ⟨rfl, rfl⟩ | ⟨-, hmk⟩
    · exact h.saved k monitor hm p
    · exact h.saved k mk hmk p

end Step

/-! ## A whole course -/

theorem stacked_start (d : Disk) : Stacked (.start d) where
  layered := trivial
  places _ := rfl
  mem_order n hn := by simp [Course.start, Watch.start, Watch.isInstalled] at hn
  saved n m hm := by simp [Course.start, Watch.start] at hm

theorem Stacked.remove {c : Course} (h : Stacked c) (m : Moment) {n : Nat} (hd : c.order.head? = some n) :
    Stacked ⟨c.watch.uninstall m n, c.order.erase n⟩ := by
  obtain ⟨w, order⟩ := c
  cases order with
  | nil => simp at hd
  | cons k rest =>
    simp only [List.head?_cons, Option.some.injEq] at hd
    subst hd
    rw [List.erase_cons_head]
    exact h.uninstall m

theorem Stacked.next_uninstall {c : Course} (h : Stacked c) (m : Moment) {n : Nat}
    (hd : ∀ k ∈ c.watch.removes? (.uninstall n), c.order.head? = some k) : Stacked (c.next m (.uninstall n)) := by
  cases hi : c.watch.isInstalled n with
  | true =>
    -- discipline comes in here: only the monitor in front knows what the places hold without it
    have hn : c.order.head? = some n := hd n (by simp [Watch.removes?, hi])
    simp only [Course.next, Watch.act, Watch.installs?, Watch.removes?, hi, if_true]
    exact h.remove m hn
  | false =>
    simp only [Course.next, Watch.act, Watch.installs?, Watch.removes?, hi, Bool.false_eq_true, if_false,
      Watch.uninstall_of_not m hi]
    exact h

theorem Stacked.next {c : Course} (h : Stacked c) (m : Moment) (a : Action)
    (hd : ∀ n ∈ c.watch.removes? a, c.order.head? = some n) : Stacked (c.next m a) := by
  cases a with
  | make destination => exact h.add destination c.watch.shared
  | install n =>
    cases hf : c.watch.monitors[n]?.any fun monitor => !monitor.installed with
    | true =>
      obtain ⟨monitor, hm, hi⟩ := Option.any_eq_true _ _ |>.mp hf
      simp only [Course.next, Watch.act, Watch.installs?, hf, if_true]
      exact h.install m hm (by simpa using hi)
    | false =>
      simp only [Course.next, Watch.act, Watch.installs?, Watch.removes?, hf, Bool.false_eq_true, if_false,
        Watch.install_of_not m hf]
      exact h
  | uninstall n => exact h.next_uninstall m hd
  | installShared destination =>
    have hadd := h.add destination (some c.watch.monitors.length)
    have hm : (c.watch.add (.fresh destination)).monitors[c.watch.monitors.length]? = some (.fresh destination) := by
      simp [Watch.add]
    exact hadd.install m hm rfl
  | uninstallShared =>
    cases hs : c.watch.shared with
    | none =>
      simp only [Course.next, Watch.act, Watch.uninstallShared, Watch.installs?, Watch.removes?, hs, Option.filter_none]
      exact h
    | some n =>
      have hremoves : c.watch.removes? .uninstallShared = c.watch.removes? (.uninstall n) := by
        simp only [Watch.removes?, hs, Option.filter_some]
      have hnext : c.next m .uninstallShared = c.next m (.uninstall n) := by
        simp only [Course.next, Watch.act, Watch.uninstallShared, Watch.installs?, hs, hremoves]
      rw [hnext]
      exact h.next_uninstall m (hremoves ▸ hd)

theorem stacked_run {c : Course} (h : Stacked c) {steps : List (Moment × Action)} (hd : c.Disciplined steps) :
    Stacked (c.run steps) := by
  induction steps generalizing c with
  | nil => exact h
  | cons s rest ih => exact ih (h.next s.1 s.2 hd.1) hd.2

theorem Course.Disciplined.take {c : Course} {steps : List (Moment × Action)} (h : c.Disciplined steps) (k : Nat) :
    c.Disciplined (steps.take k) := by
  induction k generalizing c steps with
  | zero => trivial
  | succ k ih =>
    cases steps with
    | nil => trivial
    | cons s rest => exact ⟨h.1, ih h.2⟩

theorem Stacked.mem_order_iff {c : Course} (h : Stacked c) (n : Nat) : n ∈ c.order ↔ c.watch.isInstalled n = true :=
  ⟨fun hn => Watch.isInstalled_iff.mpr (h.layered.mem hn), h.mem_order n⟩

theorem Stacked.places_real {c : Course} (h : Stacked c) (hi : ∀ m ∈ c.watch.monitors, m.installed = false) (p : Place) :
    c.watch.places p = .real := by
  have hnil : c.order = [] := by
    rw [List.eq_nil_iff_forall_not_mem]
    intro n hn
    obtain ⟨m, hm, hinst⟩ := h.layered.mem hn
    rw [hi m (List.mem_of_getElem? hm)] at hinst
    simp at hinst
  rw [h.places, hnil]
  rfl

theorem Watch.isInstalled_of_removes? {w : Watch} {a : Action} {n : Nat} (h : w.removes? a = some n) :
    w.isInstalled n = true := by
  cases a with
  | uninstall k =>
    simp only [removes?] at h
    split at h
    · next hi => cases h; exact hi
    · simp at h
  | uninstallShared => exact (Option.filter_eq_some_iff.mp h).2
  | make destination => simp [removes?] at h
  | install k => simp [removes?] at h
  | installShared destination => simp [removes?] at h

theorem Course.mem_order_next {c : Course} {m : Moment} {a : Action} {k : Nat} (h : k ∈ (c.next m a).order) :
    c.watch.installs? a = some k ∨ k ∈ c.order := by
  simp only [next] at h
  cases hi : c.watch.installs? a with
  | some n =>
    simp only [hi] at h
    rcases List.mem_cons.mp h with rfl | h
    · exact .inl rfl
    · exact .inr h
  | none =>
    cases hr : c.watch.removes? a with
    | some n =>
      simp only [hi, hr] at h
      exact .inr (List.mem_of_mem_erase h)
    | none =>
      simp only [hi, hr] at h
      exact .inr h

/-- With one monitor only, what is removed is what was installed last. -/
theorem disciplined_of_single {c : Course} (h : Stacked c) {n : Nat} (hc : ∀ k ∈ c.order, k = n)
    {steps : List (Moment × Action)}
    (hs : ∀ s ∈ steps, (∃ destination, s.2 = .make destination) ∨ s.2 = .install n ∨ s.2 = .uninstall n) :
    c.Disciplined steps := by
  induction steps generalizing c with
  | nil => trivial
  | cons s rest ih =>
    obtain ⟨m, a⟩ := s
    have hd : ∀ k ∈ c.watch.removes? a, c.order.head? = some k := by
      intro k hk
      have hmem := h.mem_order k (Watch.isInstalled_of_removes? hk)
      -- every number of the order is `n`, the removed one and the one in front
      cases ho : c.order with
      | nil => rw [ho] at hmem; simp at hmem
      | cons j tail => rw [hc k hmem, List.head?_cons, hc j (by simp [ho])]
    have hi : ∀ k, c.watch.installs? a = some k → k = n := by
      intro k hk
      rcases hs (m, a) List.mem_cons_self with ⟨destination, rfl⟩ | rfl | rfl
      · simp [Watch.installs?] at hk
      · simp only [Watch.installs?] at hk
        split at hk
        · exact (Option.some.inj hk).symm
        · simp at hk
      · simp [Watch.installs?] at hk
    refine ⟨hd, ih (h.next m a hd) ?_ fun s hs' => hs s (List.mem_cons_of_mem _ hs')⟩
    intro k hk
    exact (Course.mem_order_next hk).elim (hi k) (hc k)

/-- Along every course on which only the monitor installed last is ever removed, each place holds the hook of that monitor,
or the function that was there from the start if none is installed. No monitor saves its own hook, and when all are removed
every function is back. A course that concerns one monitor is such a course. -/
theorem places_hold_latest_hook (d : Disk) :
    (∀ steps, (Course.start d).Disciplined steps → ∀ k,
      (∀ p, (Course.upTo d steps k).watch.places p = holder (Course.upTo d steps k).order) ∧
      (∀ n, n ∈ (Course.upTo d steps k).order ↔ (Course.upTo d steps k).watch.isInstalled n = true) ∧
      (∀ (n : Nat) (m : Monitor), (Course.upTo d steps k).watch.monitors[n]? = some m →
        ∀ p, m.saved p ≠ some (.hook n)) ∧
      ((∀ m ∈ (Course.upTo d steps k).watch.monitors, m.installed = false) →
        ∀ p, (Course.upTo d steps k).watch.places p = .real)) ∧
    (∀ n steps, (∀ s ∈ steps, (∃ destination, s.2 = Action.make destination) ∨ s.2 = .install n ∨ s.2 = .uninstall n) →
      (Course.start d).Disciplined steps) := by
  refine ⟨?_, ?_⟩
  · intro steps hd k
    have h : Stacked (Course.upTo d steps k) := stacked_run (stacked_start d) (hd.take k)
    exact ⟨h.places, h.mem_order_iff, h.saved, h.places_real⟩
  · intro n steps hs
    exact disciplined_of_single (stacked_start d) (by simp [Course.start]) hs

/-- Two monitors and one of the process, installed within one another. -/
def nestedSteps : List (Moment × Action) :=
  [.make .output, .make .output, .install 0, .install 1, .install 0, .uninstall 1, .installShared .output,
    .uninstallShared, .uninstall 0, .uninstall 1].map (⟨⟨2024, 1, 2, 3, 4, 5, 0⟩, "a.py:1"⟩, ·)

theorem places_of_nestedSteps :
    (Course.start .empty).Disciplined nestedSteps ∧
    (Course.upTo .empty nestedSteps 4).watch.places .connect = .hook 1 ∧
    (∀ p, (Course.upTo .empty nestedSteps 10).watch.places p = .real) ∧
    (Course.start .empty).Disciplined (nestedSteps.take 3) := by
  have hd : (Course.start .empty).Disciplined nestedSteps := by decide
  refine ⟨hd, ?_, ?_, ?_⟩
  · rw [((places_hold_latest_hook .empty).1 nestedSteps hd 4).1]
    rfl
  · exact ((places_hold_latest_hook .empty).1 nestedSteps hd 10).2.2.2 (by decide)
  · exact (places_hold_latest_hook .empty).2 0 _ (by simp [nestedSteps])

end ThreatScan.Hook
