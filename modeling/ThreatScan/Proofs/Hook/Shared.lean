import Mathlib.Data.List.Chain
import ThreatScan.Proofs.Hook.Stack
/-!
The monitors of the process-wide functions.

Each process-wide installation makes a monitor of its own, and a process-wide removal removes the one that was made last. Of
a watch this can be in two states with a `base`, which is what the places hold without that monitor: no monitor of the process
is installed and the places hold the base (`Idle`), or the last one is, and it saved the base (`Active`). An installation in
the first state keeps the base. In the second state the hook of the earlier monitor becomes the base, and no removal gets
below it again.

What is proved: after a removal the places hold what they held before the first call exactly if no two installations follow
one another without a removal between them (`restored_iff_separated`).
-/
namespace ThreatScan.Hook

inductive SharedCall where
  | install (destination : Destination)
  | uninstall
  deriving DecidableEq, Repr

namespace SharedCall

def action : SharedCall → Action
  | .install destination => .installShared destination
  | .uninstall => .uninstallShared

def isInstall : SharedCall → Bool
  | .install _ => true
  | .uninstall => false

end SharedCall

/-- No two installations follow one another without a removal between them. -/
def Separated (calls : List (Moment × SharedCall)) : Prop :=
  calls.IsChain fun a b => ¬ (a.2.isInstall = true ∧ b.2.isInstall = true)

instance (calls : List (Moment × SharedCall)) : Decidable (Separated calls) :=
  inferInstanceAs (Decidable (calls.IsChain _))

namespace Watch

def afterShared (w : Watch) (calls : List (Moment × SharedCall)) : Watch :=
  calls.foldl (fun w c => w.act c.1 c.2.action) w

def Reached (w : Watch) : Prop := ∃ d steps, w = ((Course.start d).run steps).watch

/-- The places and the monitors know of hooks of existing monitors only. -/
structure Grounded (w : Watch) : Prop where
  places : ∀ p n, w.places p = .hook n → n < w.monitors.length
  saved : ∀ monitor ∈ w.monitors, ∀ p n, monitor.saved p = some (.hook n) → n < w.monitors.length

/-- No monitor of the process is installed, and the places hold the base. -/
def Idle (w : Watch) (base : Place → Handler) : Prop :=
  w.places = base ∧ ∀ n, w.shared = some n → w.isInstalled n = false

/-- The monitor of the process is installed, and it saved the base. -/
def Active (w : Watch) (base : Place → Handler) : Prop :=
  ∃ n monitor, w.shared = some n ∧ w.monitors[n]? = some monitor ∧ monitor.installed = true ∧
    (∀ p, monitor.saved p = some (base p)) ∧ w.places = fun _ => .hook n

variable {w : Watch} {base : Place → Handler}

/-! ## Hooks of existing monitors -/

theorem Grounded.add (h : w.Grounded) (destination : Destination) (shared : Option Nat) :
    Grounded { w.add (.fresh destination) with shared := shared } := by
  have hle : w.monitors.length ≤ (w.monitors ++ [Monitor.fresh destination]).length := by simp
  constructor
  · intro p n hn
    exact Nat.lt_of_lt_of_le (h.places p n hn) hle
  · intro monitor hm p n hn
    rcases List.mem_append.mp hm with hm | hm
    · exact Nat.lt_of_lt_of_le (h.saved monitor hm p n hn) hle
    · rw [List.mem_singleton.mp hm] at hn
      cases hn

theorem Grounded.install (h : w.Grounded) (m : Moment) (n : Nat) : (w.install m n).Grounded := by
  cases hf : w.monitors[n]?.any fun monitor => !monitor.installed with
  | false => rwa [install_of_not m hf]
  | true =>
    obtain ⟨monitor, hm, hi⟩ := Option.any_eq_true _ _ |>.mp hf
    obtain ⟨hmon, hpl⟩ := install_of_fresh m hm (by simpa using hi)
    have hlt : n < w.monitors.length := (List.getElem?_eq_some_iff.mp hm).1
    constructor
    · intro p k hk
      rw [hpl] at hk
      cases hk
      rwa [hmon, List.length_set]
    · intro changed hc p k hk
      rw [hmon] at hc
      rw [hmon, List.length_set]
      rcases List.mem_or_eq_of_mem_set hc with hc | rfl
      · exact h.saved changed hc p k hk
      · exact h.places p k (Option.some.inj hk)

theorem Grounded.uninstall (h : w.Grounded) (m : Moment) (n : Nat) : (w.uninstall m n).Grounded := by
  cases hi : w.isInstalled n with
  | false => rwa [uninstall_of_not m hi]
  | true =>
    obtain ⟨monitor, hm, hi⟩ := isInstalled_iff.mp hi
    obtain ⟨hmon, hpl⟩ := uninstall_of_installed m hm hi
    have hmem : monitor ∈ w.monitors := List.mem_of_getElem? hm
    constructor
    · intro p k hk
      rw [hmon, List.length_set]
      simp only [hpl] at hk
      cases hs : monitor.saved p with
      | none =>
        rw [hs] at hk
        exact h.places p k hk
      | some handler =>
        rw [hs] at hk
        exact h.saved monitor hmem p k (hs.trans (congrArg some hk))
    · intro changed hc p k hk
      rw [hmon] at hc
      rw [hmon, List.length_set]
      rcases List.mem_or_eq_of_mem_set hc with hc | rfl
      · exact h.saved changed hc p k hk
      · exact h.saved monitor hmem p k hk

theorem Grounded.act (h : w.Grounded) (m : Moment) (a : Action) : (w.act m a).Grounded := by
  cases a with
  | make destination => exact h.add destination w.shared
  | install n => exact h.install m n
  | uninstall n => exact h.uninstall m n
  | installShared destination => exact (h.add destination (some w.monitors.length)).install m w.monitors.length
  | uninstallShared =>
    cases hs : w.shared with
    | none =>
      simp only [Watch.act, uninstallShared, hs]
      exact h
    | some n =>
      simp only [Watch.act, uninstallShared, hs]
      exact h.uninstall m n

theorem grounded_run {c : Course} (h : c.watch.Grounded) (steps : List (Moment × Action)) :
    (c.run steps).watch.Grounded := by
  induction steps generalizing c with
  | nil => exact h
  | cons s rest ih => exact ih (h.act s.1 s.2)

theorem Reached.grounded (h : w.Reached) : w.Grounded := by
  obtain ⟨d, steps, rfl⟩ := h
  refine grounded_run ⟨?_, ?_⟩ steps
  · intro p n hn
    cases hn
  · intro monitor hm
    simp [Course.start, start] at hm

/-! ## One call -/

theorem shared_log (m : Moment) (n : Nat) (message : String) : (w.log m n message).shared = w.shared := by
  unfold log write
  split
  · split
    · rfl
    · split <;> rfl
  · rfl

/-- The new monitor has the next number and is installed, and it saves what the places hold. -/
theorem installShared_spec (m : Moment) (destination : Destination) :
    (w.installShared m destination).Active w.places ∧ (w.installShared m destination).shared = some w.monitors.length ∧
    (w.installShared m destination).monitors.length = w.monitors.length + 1 := by
  let added : Watch := { w.add (.fresh destination) with shared := some w.monitors.length }
  have hm : added.monitors[w.monitors.length]? = some (.fresh destination) := by simp [added, Watch.add]
  have hlength : added.monitors.length = w.monitors.length + 1 := by simp [added, Watch.add]
  obtain ⟨hmon, hpl⟩ := install_of_fresh m hm rfl
  have hshared : (added.install m w.monitors.length).shared = some w.monitors.length := by
    simp only [install, hm, Monitor.fresh, Bool.false_eq_true, if_false]
    exact shared_log m _ _
  refine ⟨⟨w.monitors.length, { Monitor.fresh destination with installed := true, saved := fun p => some (w.places p) },
    hshared, ?_, rfl, fun _ => rfl, hpl⟩, hshared, ?_⟩
  · change (added.install m w.monitors.length).monitors[w.monitors.length]? = _
    rw [hmon, List.getElem?_set_self (by omega)]
    rfl
  · rw [← hlength]
    exact (congrArg List.length hmon).trans List.length_set

theorem uninstallShared_frame (m : Moment) : (w.uninstallShared m).shared = w.shared ∧
    (w.uninstallShared m).monitors.length = w.monitors.length := by
  unfold uninstallShared
  split
  · next n _ =>
    cases hi : w.isInstalled n with
    | false => simp [uninstall_of_not m hi]
    | true =>
      obtain ⟨monitor, hm, hi⟩ := isInstalled_iff.mp hi
      refine ⟨?_, ?_⟩
      · simp only [uninstall, hm, hi, if_true]
        exact shared_log m _ _
      · rw [(uninstall_of_installed m hm hi).1, List.length_set]
  · exact ⟨rfl, rfl⟩

theorem Active.uninstallShared (h : w.Active base) (m : Moment) : (w.uninstallShared m).Idle base := by
  obtain ⟨hshared, -⟩ := w.uninstallShared_frame m
  obtain ⟨n, monitor, hs, hm, hi, hsaved, -⟩ := h
  obtain ⟨hmon, hpl⟩ := uninstall_of_installed m hm hi
  have hlt : n < w.monitors.length := (List.getElem?_eq_some_iff.mp hm).1
  rw [hs] at hshared
  unfold Watch.uninstallShared at hshared ⊢
  rw [hs] at hshared ⊢
  refine ⟨?_, ?_⟩
  · funext p
    simp only [hpl, hsaved p, Option.getD_some]
  · intro k hk
    rw [hshared] at hk
    cases hk
    simp [isInstalled, hmon, hlt]

theorem Idle.uninstallShared (h : w.Idle base) (m : Moment) : w.uninstallShared m = w := by
  unfold Watch.uninstallShared
  split
  · next n hs => exact uninstall_of_not m (h.2 n hs)
  · rfl

end Watch

/-! ## All calls -/

def endsInstalled (calls : List (Moment × SharedCall)) : Bool := calls.getLast?.any fun c => c.2.isInstall

theorem endsInstalled_concat (calls : List (Moment × SharedCall)) (c : Moment × SharedCall) :
    endsInstalled (calls ++ [c]) = c.2.isInstall := by
  simp [endsInstalled]

theorem separated_concat (calls : List (Moment × SharedCall)) (c : Moment × SharedCall) :
    Separated (calls ++ [c]) ↔ Separated calls ∧ ¬ (endsInstalled calls = true ∧ c.2.isInstall = true) := by
  unfold Separated endsInstalled
  rw [List.isChain_append]
  cases calls.getLast? <;> simp

theorem separated_concat_uninstall (calls : List (Moment × SharedCall)) (m : Moment) :
    Separated (calls ++ [(m, .uninstall)]) ↔ Separated calls := by
  rw [separated_concat]
  simp [SharedCall.isInstall]

/-- What calls lead to from a watch: the state of the process with its base. -/
structure Follows (start : Watch) (calls : List (Moment × SharedCall)) (w : Watch) (base : Place → Handler) : Prop where
  active : endsInstalled calls = true → w.Active base
  idle : endsInstalled calls = false → w.Idle base
  kept : Separated calls → base = start.places
  left : ¬ Separated calls → ∃ n, start.monitors.length ≤ n ∧ base = fun _ => .hook n
  made : start.monitors.length ≤ w.monitors.length
  shared : ∀ n, w.shared = some n → start.monitors.length ≤ n

section Follows
variable {start w : Watch} {calls : List (Moment × SharedCall)} {base : Place → Handler}

theorem Follows.install (h : Follows start calls w base) (m : Moment) (destination : Destination) :
    Follows start (calls ++ [(m, .install destination)]) (w.installShared m destination) w.places := by
  obtain ⟨hactive, hshared, hlength⟩ := w.installShared_spec m destination
  have hinstall : SharedCall.isInstall (.install destination) = true := rfl
  constructor
  · exact fun _ => hactive
  · intro hlast
    rw [endsInstalled_concat, hinstall] at hlast
    cases hlast
  · rw [separated_concat]
    rintro ⟨hsep, hlast⟩
    have hidle := h.idle (by simpa [hinstall] using hlast)
    exact hidle.1.trans (h.kept hsep)
  · -- the hook of the monitor before becomes the base, or it is a hook already
    rw [separated_concat]
    intro hn
    cases hlast : endsInstalled calls with
    | true =>
      obtain ⟨n, -, hs, -, -, -, hplaces⟩ := h.active hlast
      exact ⟨n, h.shared n hs, hplaces⟩
    | false =>
      have hsep : ¬ Separated calls := fun hsep => hn ⟨hsep, by simp [hlast]⟩
      rw [(h.idle hlast).1]
      exact h.left hsep
  · have := h.made
    omega
  · intro n hn
    rw [hshared] at hn
    cases hn
    exact h.made

theorem Follows.uninstall (h : Follows start calls w base) (m : Moment) :
    Follows start (calls ++ [(m, .uninstall)]) (w.uninstallShared m) base := by
  obtain ⟨hshared, hlength⟩ := w.uninstallShared_frame m
  have hseparated := separated_concat_uninstall calls m
  constructor
  · intro hlast
    rw [endsInstalled_concat] at hlast
    cases hlast
  · intro _
    cases hlast : endsInstalled calls with
    | true => exact (h.active hlast).uninstallShared m
    | false =>
      rw [(h.idle hlast).uninstallShared m]
      exact h.idle hlast
  · rw [hseparated]
    exact h.kept
  · rw [hseparated]
    exact h.left
  · rw [hlength]
    exact h.made
  · rw [hshared]
    exact h.shared

theorem follows_afterShared (hs : start.shared = none) (calls : List (Moment × SharedCall)) :
    ∃ base, Follows start calls (start.afterShared calls) base := by
  induction calls using List.reverseRecOn with
  | nil =>
    have hnone : ∀ n, start.shared ≠ some n := fun n hn => by simp [hs] at hn
    exact ⟨start.places, fun hlast => (by cases hlast), fun _ => ⟨rfl, fun n hn => absurd hn (hnone n)⟩, fun _ => rfl,
      fun hn => absurd List.IsChain.nil hn, Nat.le_refl _, fun n hn => absurd hn (hnone n)⟩
  | append_singleton calls c ih =>
    obtain ⟨base, h⟩ := ih
    obtain ⟨m, call⟩ := c
    unfold Watch.afterShared at h ⊢
    rw [List.foldl_append, List.foldl_cons, List.foldl_nil]
    cases call with
    | install destination => exact ⟨_, h.install m destination⟩
    | uninstall => exact ⟨base, h.uninstall m⟩

end Follows

/-- After a process-wide removal all places hold what they held before the first process-wide call, exactly if no two
installations followed one another. If some did, all places hold the hook of one of the monitors that the calls made. -/
theorem restored_iff_separated {w : Watch} (hw : w.Reached) (hs : w.shared = none) (calls : List (Moment × SharedCall))
    (m : Moment) :
    ((∀ p, (w.afterShared (calls ++ [(m, .uninstall)])).places p = w.places p) ↔ Separated calls) ∧
    (¬ Separated calls → ∃ n, w.monitors.length ≤ n ∧
      ∀ p, (w.afterShared (calls ++ [(m, .uninstall)])).places p = .hook n) := by
  obtain ⟨base, h⟩ := follows_afterShared hs (calls ++ [(m, .uninstall)])
  obtain ⟨hplaces, -⟩ := h.idle (endsInstalled_concat calls (m, .uninstall))
  have hseparated := separated_concat_uninstall calls m
  have hleft : ¬ Separated calls → ∃ n, w.monitors.length ≤ n ∧
      ∀ p, (w.afterShared (calls ++ [(m, .uninstall)])).places p = .hook n := by
    intro hn
    obtain ⟨n, hle, hbase⟩ := h.left (fun hsep => hn (hseparated.mp hsep))
    exact ⟨n, hle, fun p => congrFun (hplaces.trans hbase) p⟩
  refine ⟨⟨fun hrestored => ?_, fun hsep p => ?_⟩, hleft⟩
  · by_contra hn
    obtain ⟨n, hle, hhook⟩ := hleft hn
    -- no hook of a monitor that did not exist yet stood at the places
    have hlt := hw.grounded.places .system n ((hrestored .system).symm.trans (hhook .system))
    omega
  · exact congrFun (hplaces.trans (h.kept (hseparated.mpr hsep))) p

namespace SharedCall

def moment : Moment := ⟨⟨2024, 1, 2, 3, 4, 5, 678901⟩, "a.py:1"⟩

/-- A process on which a monitor of its own was installed before. -/
def watched : Watch := ((Course.start .empty).run [(moment, .make .output), (moment, .install 0)]).watch

/-- The process-wide functions leave that monitor where it is. -/
theorem separated_calls_undone :
    (∀ p, watched.places p = .hook 0) ∧
    ∀ p, (watched.afterShared ([(moment, .install .output), (moment, .uninstall), (moment, .uninstall),
      (moment, .install .output)] ++ [(moment, .uninstall)])).places p = watched.places p := by
  have hreached : watched.Reached := ⟨_, _, rfl⟩
  exact ⟨fun _ => rfl, (restored_iff_separated hreached rfl _ moment).1.mpr (by decide)⟩

/-- Of two installations in a row a removal undoes the second only. -/
theorem second_install_undone_only :
    ¬ ∀ p, ((Watch.start .empty).afterShared [(moment, .install .output), (moment, .install .output),
      (moment, .uninstall)]).places p = (Watch.start .empty).places p := by
  intro hrestored
  exact absurd (hrestored .system) (by decide)

end SharedCall
end ThreatScan.Hook
