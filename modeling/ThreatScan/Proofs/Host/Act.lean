import ThreatScan.Host.Basic
/-!
What an action on a host comes to.

`Gives x h a h'` says that the action `x`, begun on the host `h`, comes to the result `a` and leaves the host as `h'`;
`Fails` says the same of a failure. Every action does one or the other (`gives_or_fails`). The lemmas take an action apart
into its parts, so that proofs about actions need not open the two layers of the monad.

`OnlyPrints x` says that `x` changes nothing on the host but what was printed, whether it fails or not; `Succeeds x` says
that it comes to a result on every host. Both pass from the parts of an action to the whole. An operation on the disk
succeeds exactly if the disk allows it, and then changes only the disk (`gives_onDisk`).
-/
namespace ThreatScan

/-- What an action that cannot fail comes to on a host, and the host after it. -/
def Host.after {α : Type} (x : StateM Host α) (h : Host) : α × Host := x.run h

namespace Host

variable {α β : Type}

theorem after_pure (a : α) (h : Host) : after (pure a) h = (a, h) := rfl

theorem after_get (h : Host) : after (get : StateM Host Host) h = (h, h) := rfl

theorem after_bind (x : StateM Host α) (f : α → StateM Host β) (h : Host) :
    after (x >>= f) h = after (f (after x h).1) (after x h).2 := rfl

end Host

namespace Act

variable {ε α β : Type}

def outcome (x : Act α) (h : Host) : Except Failure α × Host := x.run.run h

def Gives (x : Act α) (h : Host) (a : α) (h' : Host) : Prop := x.outcome h = (.ok a, h')

def Fails (x : Act α) (h : Host) (e : Failure) (h' : Host) : Prop := x.outcome h = (.error e, h')

theorem gives_or_fails (x : Act α) (h : Host) : (∃ a h', Gives x h a h') ∨ ∃ e h', Fails x h e h' := by
  unfold Gives Fails
  rcases x.outcome h with ⟨e | a, h'⟩
  · exact .inr ⟨e, h', rfl⟩
  · exact .inl ⟨a, h', rfl⟩

/-! ## Sequences -/

section Bind
variable {x : Act α} {f : α → Act β} {h h' : Host}

/-- How a sequence runs: the second part on the host that the first leaves, unless the first fails. -/
theorem outcome_bind : (x >>= f).outcome h = match x.outcome h with
    | (.ok a, h₁) => (f a).outcome h₁
    | (.error e, h₁) => (.error e, h₁) := by
  have hrun : (x >>= f).outcome h = ExceptT.bindCont f (x.outcome h).1 (x.outcome h).2 := rfl
  rw [hrun]
  rcases x.outcome h with ⟨e | a, h₁⟩
  · rfl
  · rfl

theorem gives_bind {b : β} : Gives (x >>= f) h b h' ↔ ∃ a h₁, Gives x h a h₁ ∧ Gives (f a) h₁ b h' := by
  unfold Gives
  rw [outcome_bind]
  rcases x.outcome h with ⟨e | a, h₁⟩
  · simp
  · simp [and_assoc]

theorem fails_bind {e : Failure} :
    Fails (x >>= f) h e h' ↔ Fails x h e h' ∨ ∃ a h₁, Gives x h a h₁ ∧ Fails (f a) h₁ e h' := by
  unfold Gives Fails
  rw [outcome_bind]
  rcases x.outcome h with ⟨e' | a, h₁⟩
  · simp
  · simp [and_assoc]

end Bind

theorem Gives.not_fails {x : Act α} {h h₁ h₂ : Host} {a : α} {e : Failure} (hg : Gives x h a h₁) : ¬ Fails x h e h₂ := by
  intro hf
  cases hg.symm.trans hf

/-! ## Single actions -/

section Single
variable {h h' : Host}

theorem outcome_pure (a : α) (h : Host) : (pure a : Act α).outcome h = (.ok a, h) := rfl

theorem outcome_get (h : Host) : (get : Act Host).outcome h = (.ok h, h) := rfl

theorem outcome_always (x : StateM Host α) (h : Host) : (always x).outcome h = (.ok (Host.after x h).1, (Host.after x h).2) := rfl

theorem outcome_check_ok (wrap : ε → Failure) (a : α) (h : Host) : (check wrap (.ok a)).outcome h = (.ok a, h) := rfl

theorem outcome_check_error (wrap : ε → Failure) (reason : ε) (h : Host) :
    (check wrap (.error reason) : Act α).outcome h = (.error (wrap reason), h) := rfl

/-- An attempt lets what follows see how the action ended. -/
theorem after_attempt (x : Act α) (h : Host) : Host.after (attempt x) h = x.outcome h := rfl

theorem gives_pure {a b : α} : Gives (pure a) h b h' ↔ a = b ∧ h = h' := by simp [Gives, outcome_pure]

theorem gives_check {wrap : ε → Failure} {x : Except ε α} {a : α} : Gives (check wrap x) h a h' ↔ x = .ok a ∧ h = h' := by
  cases x with
  | ok b => simp [Gives, outcome_check_ok]
  | error reason => simp [Gives, outcome_check_error]

theorem gives_valid {x : Except Fault α} {a : α} : Gives (valid x) h a h' ↔ x = .ok a ∧ h = h' := gives_check

theorem gives_get {g : Host} : Gives get h g h' ↔ h = g ∧ h = h' := by simp [Gives, outcome_get]

theorem gives_always {x : StateM Host α} {a : α} : Gives (always x) h a h' ↔ Host.after x h = (a, h') := by
  rw [Gives, outcome_always, Prod.mk.injEq, Except.ok.injEq, Prod.ext_iff]

end Single

/-- How an operation on the disk runs: one that the disk refuses leaves the host as it was. -/
theorem outcome_onDisk (operation : Disk → Except DiskError Disk) (h : Host) :
    (Host.onDisk operation).outcome h = match operation h.disk with
      | .ok d => (.ok (), { h with disk := d })
      | .error reason => (.error (.disk reason), h) := by
  unfold Host.onDisk
  rw [outcome_bind, outcome_get]
  dsimp only
  rw [outcome_bind]
  cases operation h.disk with
  | ok d => rfl
  | error reason => rfl

theorem gives_onDisk {operation : Disk → Except DiskError Disk} {h h' : Host} {u : Unit} :
    Gives (Host.onDisk operation) h u h' ↔ ∃ d, operation h.disk = .ok d ∧ h' = { h with disk := d } := by
  rw [Gives, outcome_onDisk]
  cases operation h.disk with
  | ok d => simp [eq_comm]
  | error reason => simp

theorem fails_onDisk {operation : Disk → Except DiskError Disk} {h h' : Host} {e : Failure} :
    Fails (Host.onDisk operation) h e h' ↔ ∃ reason, operation h.disk = .error reason ∧ e = .disk reason ∧ h' = h := by
  rw [Fails, outcome_onDisk]
  cases operation h.disk with
  | ok d => simp
  | error reason => simp [eq_comm]

theorem not_fails_always {x : StateM Host α} {h h' : Host} {e : Failure} : ¬ Fails (always x) h e h' := by
  intro hf
  rw [Fails, outcome_always] at hf
  cases hf

theorem fails_check {wrap : ε → Failure} {x : Except ε α} {h h' : Host} {e : Failure} :
    Fails (check wrap x) h e h' ↔ ∃ reason, x = .error reason ∧ e = wrap reason ∧ h = h' := by
  cases x with
  | ok b => simp [Fails, outcome_check_ok]
  | error reason => simp [Fails, outcome_check_error, eq_comm]

/-! ## What an action leaves as it was, and actions that cannot fail -/

/-- All that the action does to the host is to print. -/
def OnlyPrints (x : Act α) : Prop := ∀ h : Host, ∃ text, (x.outcome h).2 = { h with printed := text }

namespace OnlyPrints

theorem pure' (a : α) : OnlyPrints (pure a) := fun h => ⟨h.printed, rfl⟩

theorem get' : OnlyPrints get := fun h => ⟨h.printed, rfl⟩

theorem print (line : String) : OnlyPrints (always (Host.print line)) := fun _ => ⟨_, rfl⟩

theorem check (wrap : ε → Failure) (x : Except ε α) : OnlyPrints (check wrap x) := by
  intro h
  cases x with
  | ok a => exact ⟨h.printed, rfl⟩
  | error e => exact ⟨h.printed, rfl⟩

theorem valid (x : Except Fault α) : OnlyPrints (valid x) := check .fault x

theorem bind' {x : Act α} {f : α → Act β} (hx : OnlyPrints x) (hf : ∀ a, OnlyPrints (f a)) : OnlyPrints (x >>= f) := by
  intro h
  obtain ⟨text, hx⟩ := hx h
  rw [outcome_bind]
  rcases hrun : x.outcome h with ⟨e | a, h₁⟩
  · rw [hrun] at hx
    exact ⟨text, hx⟩
  · rw [hrun] at hx
    obtain rfl : h₁ = { h with printed := text } := hx
    exact hf a _

theorem host_of_gives {x : Act α} (hx : OnlyPrints x) {h h' : Host} {a : α} (hg : Gives x h a h') :
    ∃ text, h' = { h with printed := text } := by
  obtain ⟨text, hx⟩ := hx h
  rw [hg] at hx
  exact ⟨text, hx⟩

end OnlyPrints

def Succeeds (x : Act α) : Prop := ∀ h : Host, ∃ a h', Gives x h a h'

namespace Succeeds

theorem pure' (a : α) : Succeeds (pure a) := fun h => ⟨a, h, gives_pure.mpr ⟨rfl, rfl⟩⟩

theorem always (x : StateM Host α) : Succeeds (always x) := fun _ => ⟨_, _, gives_always.mpr rfl⟩

theorem bind' {x : Act α} {f : α → Act β} (hx : Succeeds x) (hf : ∀ a, Succeeds (f a)) : Succeeds (x >>= f) := by
  intro h
  obtain ⟨a, h₁, ha⟩ := hx h
  obtain ⟨b, h₂, hb⟩ := hf a h₁
  exact ⟨b, h₂, gives_bind.mpr ⟨a, h₁, ha, hb⟩⟩

theorem mapM {f : α → Act β} (hf : ∀ a, Succeeds (f a)) (xs : List α) : Succeeds (xs.mapM f) := by
  induction xs with
  | nil => exact pure' []
  | cons x rest ih =>
    rw [List.mapM_cons]
    exact bind' (hf x) fun b => bind' ih fun bs => pure' (b :: bs)

end Succeeds

end Act
end ThreatScan
