import ThreatScan.Proofs.Disk.Files
import ThreatScan.Proofs.Hook.Stack
/-!
What a monitor writes to its log.

A monitor is worked with step by step (`Step`): it is installed or removed, or one of its hooks is called. If it passes calls
on to the functions that were there from the start (`Alone`), a call has one outcome (`outcome`) and leaves one or two
messages (`HookCall.messages`): the alert and, if the call fails, the failure. `LogHolds` says what the log of a monitor
holds, and a whole course of steps adds the entries of its steps, one behind the other (`logHolds_after`). Calls of hooks
leave the monitor as it is, so the messages of one do not depend on the calls before it (`entries_calls`).
-/
namespace ThreatScan.Hook

/-- A call of a hook: when it is made, for which place, with which arguments, and what the function behind the hook
answers. -/
structure HookCall where
  moment : Moment
  place : Place
  call : Call
  answer : Outcome

inductive Step where
  | install (m : Moment)
  | uninstall (m : Moment)
  | call (c : HookCall)

def Step.moment : Step → Moment
  | .install m => m
  | .uninstall m => m
  | .call c => c.moment

/-- An entry of a log: when it is written, and what it says. -/
structure LogEntry where
  now : Instant
  message : String
  deriving DecidableEq, Repr

def LogEntry.text (e : LogEntry) : String := "[" ++ e.now.logText ++ "] " ++ e.message ++ "\n"

def logText (es : List LogEntry) : String := String.ofList (es.flatMap fun e => e.text.toList)

@[simp] theorem logText_nil : logText [] = "" := rfl

theorem logText_append (es fs : List LogEntry) : logText (es ++ fs) = logText es ++ logText fs := by
  simp [logText, String.ofList_append]

theorem logText_cons (e : LogEntry) (es : List LogEntry) : logText (e :: es) = e.text ++ logText es := by
  simp [logText, String.ofList_append]

namespace HookCall

def alert (c : HookCall) : Except CallError String :=
  match c.place.complete c.call with
  | none => .error .badArguments
  | some call => c.place.alert call

def messages (c : HookCall) (o : Outcome) : List String :=
  match c.alert with
  | .error _ => []
  | .ok text => ("[ALERT] " ++ text ++ " | stack=" ++ c.moment.stack) ::
      match o with
      | .result _ => []
      | .error e => ["[ERROR] " ++ c.place.label ++ " execution failed: " ++ e.message]

def entries (c : HookCall) (o : Outcome) : List LogEntry := (c.messages o).map fun message => ⟨c.moment.now, message⟩

end HookCall

namespace Watch

/-- How a call of a hook ends: it may be refused, or there may be no function to pass it on to. -/
def outcome (w : Watch) (n : Nat) (c : HookCall) : Outcome :=
  match c.alert, w.next? n c.place with
  | .error e, _ => .error e
  | .ok _, some _ => c.answer
  | .ok _, none => .error .notCallable

def step (w : Watch) (n : Nat) : Step → Option Outcome × Watch
  | .install m => (none, w.install m n)
  | .uninstall m => (none, w.uninstall m n)
  | .call c =>
    let r := w.callHook (fun _ _ => c.answer) c.moment n c.place c.call
    (some r.1, r.2)

def after (w : Watch) (n : Nat) (steps : List Step) : Watch := steps.foldl (fun w s => (w.step n s).2) w

def outcomes (w : Watch) (n : Nat) : List Step → List Outcome
  | [] => []
  | s :: rest => (w.step n s).1.toList ++ outcomes (w.step n s).2 n rest

def said (w : Watch) (n : Nat) : Step → List String
  | .install _ => if (w.monitors[n]?).any fun m => !m.installed then ["[INFO] Hooks installed successfully"] else []
  | .uninstall _ => if w.isInstalled n then ["[INFO] Hooks uninstalled successfully"] else []
  | .call c => c.messages (w.outcome n c)

def entries (w : Watch) (n : Nat) : List Step → List LogEntry
  | [] => []
  | s :: rest => (w.said n s).map (fun message => ⟨s.moment.now, message⟩) ++ entries (w.step n s).2 n rest

/-- The monitor writes to the destination, and it passes calls on to the functions that were there from the start. -/
def Alone (w : Watch) (n : Nat) (destination : Destination) : Prop :=
  ∃ monitor, w.monitors[n]? = some monitor ∧ monitor.destination = destination ∧
    (∀ p h, monitor.saved p = some h → h = .real) ∧
    (monitor.installed = true → ∀ p, monitor.saved p = some .real) ∧
    (monitor.installed = false → ∀ p, w.places p = .real)

def single (d : Disk) (destination : Destination) : Watch := (start d).add (.fresh destination)

theorem alone_single (d : Disk) (destination : Destination) : (single d destination).Alone 0 destination :=
  ⟨.fresh destination, rfl, rfl, fun _ _ hs => (by cases hs), fun hi => (by cases hi), fun _ _ => rfl⟩

/-- The log of a destination holds the text. -/
def LogHolds (w : Watch) (text : String) : Destination → Prop
  | .output => w.output = text
  | .file path => w.disk.Holds path text

/-- The file is the log of a destination: the log file itself, or a file with all of the output. -/
def IsLog (w : Watch) (d : Disk) (path : String) : Destination → Prop
  | .output => d.read path = .ok (.text w.output)
  | .file log => d = w.disk ∧ path = log

variable {w : Watch} {n : Nat} {destination : Destination}

/-! ## Writing -/

theorem LogHolds.write {text : String} (h : w.LogHolds text destination) (line : String) :
    (w.write destination line).LogHolds (text ++ line) destination := by
  cases destination with
  | output => exact congrArg (· ++ line) h
  | file path =>
    obtain ⟨d, hd, hholds⟩ := Disk.Holds.append h line
    simp only [Watch.write, hd]
    exact hholds

theorem LogHolds.log {text : String} (h : w.LogHolds text destination) (ha : w.Alone n destination) (m : Moment)
    (message : String) : (w.log m n message).LogHolds (text ++ LogEntry.text ⟨m.now, message⟩) destination := by
  obtain ⟨monitor, hm, rfl, -⟩ := ha
  simp only [Watch.log, hm]
  exact h.write _

theorem Alone.of_frame {w' : Watch} (h : w.Alone n destination) (hm : w'.monitors = w.monitors)
    (hp : w'.places = w.places) : w'.Alone n destination := by
  unfold Alone
  rw [hm, hp]
  exact h

theorem Alone.log (h : w.Alone n destination) (m : Moment) (message : String) :
    (w.log m n message).Alone n destination :=
  h.of_frame (log_frame w m n message).1 (log_frame w m n message).2

/-! ## Calls -/

theorem next?_log (m : Moment) (message : String) (p : Place) : (w.log m n message).next? n p = w.next? n p := by
  obtain ⟨hm, hp⟩ := log_frame w m n message
  unfold next?
  rw [hm, hp]

theorem Alone.next? (h : w.Alone n destination) {p : Place} {handler : Handler} (hn : w.next? n p = some handler) :
    handler = .real := by
  obtain ⟨monitor, hm, -, hsaved, hinstalled, hplaces⟩ := h
  unfold Watch.next? at hn
  rw [hm] at hn
  dsimp only at hn
  split at hn
  · next hs => exact hsaved _ _ (hs.trans hn)
  · next hs =>
    -- a monitor without a saved function is not installed, so the place is as it was
    cases hi : monitor.installed with
    | true => rw [hinstalled hi] at hs; cases hs
    | false =>
      rw [hplaces hi] at hn
      exact (Option.some.inj hn).symm
  · cases hn

theorem callHook_eq (h : w.Alone n destination) (c : HookCall) :
    w.callHook (fun _ _ => c.answer) c.moment n c.place c.call =
      (w.outcome n c, (c.messages (w.outcome n c)).foldl (fun w message => w.log c.moment n message) w) := by
  unfold callHook depth outcome HookCall.messages HookCall.alert
  rw [invoke_succ]
  cases c.place.complete c.call with
  | none => rfl
  | some call =>
    dsimp only
    cases c.place.alert call with
    | error e => rfl
    | ok text =>
      dsimp only
      rw [next?_log]
      cases hn : w.next? n c.place with
      | none => rfl
      | some handler =>
        rw [h.next? hn]
        dsimp only
        rw [invoke_real]
        cases c.answer <;> rfl

/-! ## One step -/

theorem foldl_log (h : w.Alone n destination) (m : Moment) (messages : List String) {text : String}
    (hl : w.LogHolds text destination) :
    (messages.foldl (fun w message => w.log m n message) w).Alone n destination ∧
    (messages.foldl (fun w message => w.log m n message) w).LogHolds
      (text ++ logText (messages.map fun message => ⟨m.now, message⟩)) destination := by
  induction messages generalizing w text with
  | nil => exact ⟨h, by simpa using hl⟩
  | cons message rest ih =>
    rw [List.foldl_cons, List.map_cons, logText_cons, ← String.append_assoc]
    exact ih (h.log m message) (hl.log h m message)

theorem LogHolds.of_set {monitors : List Monitor} {places : Place → Handler} {text : String}
    (h : w.LogHolds text destination) :
    LogHolds { w with monitors := monitors, places := places } text destination := by
  cases destination with
  | output => exact h
  | file path => exact h

theorem Alone.set {monitor : Monitor} (changed : Monitor) (hm : w.monitors[n]? = some monitor)
    (hd : changed.destination = destination) (hs : ∀ p h, changed.saved p = some h → h = .real)
    (hi : changed.installed = true → ∀ p, changed.saved p = some .real) {places : Place → Handler}
    (hp : changed.installed = false → ∀ p, places p = .real) :
    Alone { w with monitors := w.monitors.set n changed, places := places } n destination := by
  have hlt : n < w.monitors.length := (List.getElem?_eq_some_iff.mp hm).1
  exact ⟨changed, List.getElem?_set_self hlt, hd, hs, hi, hp⟩

section Steps
variable (h : w.Alone n destination) {text : String} (hl : w.LogHolds text destination)
include h hl

theorem install_spec (m : Moment) : (w.install m n).Alone n destination ∧
    (w.install m n).LogHolds (text ++ logText ((w.said n (.install m)).map fun message => ⟨m.now, message⟩))
      destination := by
  have ⟨monitor, hm, hd, _, _, hplaces⟩ := h
  cases hi : monitor.installed with
  | true =>
    have hnot : (w.monitors[n]?.any fun m => !m.installed) = false := by simp [hm, hi]
    rw [install_of_not m hnot, said, hnot]
    exact ⟨h, by simpa using hl⟩
  | false =>
    have hsaid : w.said n (.install m) = ["[INFO] Hooks installed successfully"] := by simp [said, hm, hi]
    let changed : Monitor := { monitor with installed := true, saved := fun p => some (w.places p) }
    -- what it saves is what stands at the places, and these are as they were from the start
    have hsaved : ∀ p, changed.saved p = some .real := fun p => congrArg some (hplaces hi p)
    have hset : Alone { w with monitors := w.monitors.set n changed, places := fun _ => .hook n } n destination := by
      refine Alone.set changed hm hd (fun p handler hs => ?_) (fun _ => hsaved) (fun hf => (by cases hf))
      rw [hsaved] at hs
      exact (Option.some.inj hs).symm
    have heq : w.install m n = Watch.log { w with monitors := w.monitors.set n changed, places := fun _ => .hook n } m n
        "[INFO] Hooks installed successfully" := by
      simp only [Watch.install, hm, hi, Bool.false_eq_true, if_false, changed]
    rw [heq, hsaid, List.map_singleton, logText_cons, logText_nil, String.append_empty]
    exact ⟨hset.log m _, hl.of_set.log hset m _⟩

theorem uninstall_spec (m : Moment) : (w.uninstall m n).Alone n destination ∧
    (w.uninstall m n).LogHolds (text ++ logText ((w.said n (.uninstall m)).map fun message => ⟨m.now, message⟩))
      destination := by
  have ⟨monitor, hm, hd, hsaved, hinstalled, _⟩ := h
  cases hi : monitor.installed with
  | false =>
    have hnot : w.isInstalled n = false := by simp [isInstalled, hm, hi]
    rw [uninstall_of_not m hnot, said, hnot]
    exact ⟨h, by simpa using hl⟩
  | true =>
    have hsaid : w.said n (.uninstall m) = ["[INFO] Hooks uninstalled successfully"] := by
      simp [said, isInstalled, hm, hi]
    let changed : Monitor := { monitor with installed := false }
    let places : Place → Handler := fun p => (monitor.saved p).getD (w.places p)
    have hset : Alone { w with monitors := w.monitors.set n changed, places := places } n destination := by
      refine Alone.set changed hm hd hsaved (fun hf => (by cases hf)) fun _ p => ?_
      simp only [places, hinstalled hi p, Option.getD_some]
    have heq : w.uninstall m n = Watch.log { w with monitors := w.monitors.set n changed, places := places } m n
        "[INFO] Hooks uninstalled successfully" := by
      simp only [Watch.uninstall, hm, hi, if_true, changed, places]
    rw [heq, hsaid, List.map_singleton, logText_cons, logText_nil, String.append_empty]
    exact ⟨hset.log m _, hl.of_set.log hset m _⟩

theorem step_spec (s : Step) : (w.step n s).2.Alone n destination ∧
    (w.step n s).2.LogHolds (text ++ logText ((w.said n s).map fun message => ⟨s.moment.now, message⟩)) destination := by
  cases s with
  | install m => exact install_spec h hl m
  | uninstall m => exact uninstall_spec h hl m
  | call c =>
    simp only [step, callHook_eq h]
    exact foldl_log h c.moment _ hl

end Steps

/-! ## Whole courses -/

theorem logHolds_after (h : w.Alone n destination) {text : String} (hl : w.LogHolds text destination)
    (steps : List Step) : (w.after n steps).LogHolds (text ++ logText (w.entries n steps)) destination := by
  induction steps generalizing w text with
  | nil => simpa [after, entries] using hl
  | cons s rest ih =>
    obtain ⟨halone, hlog⟩ := step_spec h hl s
    rw [entries, logText_append, ← String.append_assoc]
    exact ih halone hlog

theorem outcome_congr {w' : Watch} (hm : w'.monitors = w.monitors) (hp : w'.places = w.places) (c : HookCall) :
    w'.outcome n c = w.outcome n c := by
  unfold outcome next?
  rw [hm, hp]

theorem foldl_log_frame (m : Moment) (messages : List String) :
    (messages.foldl (fun w message => w.log m n message) w).monitors = w.monitors ∧
    (messages.foldl (fun w message => w.log m n message) w).places = w.places := by
  induction messages generalizing w with
  | nil => exact ⟨rfl, rfl⟩
  | cons message rest ih =>
    obtain ⟨hm, hp⟩ := log_frame w m n message
    obtain ⟨hm', hp'⟩ := ih (w := w.log m n message)
    exact ⟨hm'.trans hm, hp'.trans hp⟩

/-- Calls leave the monitor as it is, so each leaves the entries that it would leave on its own. -/
theorem entries_calls (h : w.Alone n destination) (calls : List HookCall) :
    w.entries n (calls.map Step.call) = calls.flatMap fun c => c.entries (w.outcome n c) := by
  -- the first watch fixes the outcomes; those after it differ in what was written only
  suffices hall : ∀ w' : Watch, w'.monitors = w.monitors → w'.places = w.places →
      w'.entries n (calls.map Step.call) = calls.flatMap fun c => c.entries (w.outcome n c) from hall w rfl rfl
  induction calls with
  | nil => exact fun _ _ _ => rfl
  | cons c rest ih =>
    intro w' hm hp
    have hstep : (w'.step n (.call c)).2.monitors = w.monitors ∧ (w'.step n (.call c)).2.places = w.places := by
      simp only [step, callHook_eq (h.of_frame hm hp)]
      obtain ⟨hm', hp'⟩ := foldl_log_frame (w := w') (n := n) c.moment (c.messages (w'.outcome n c))
      exact ⟨hm'.trans hm, hp'.trans hp⟩
    rw [List.map_cons, entries, List.flatMap_cons, ih _ hstep.1 hstep.2, said, outcome_congr hm hp]
    rfl

end Watch
end ThreatScan.Hook
