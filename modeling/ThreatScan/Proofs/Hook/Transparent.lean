import Mathlib.Data.List.Perm.Subperm
import ThreatScan.Proofs.Checked
import ThreatScan.Proofs.Hook.Logging
/-!
Calls of functions that are watched.

A monitor is installed on a process on which others may be installed already, and a call is made at a place. The hook of the
monitor completes the call, logs it and passes it on, through the hooks below it, to the function that was there from the
start. Completing a completed call changes nothing (`complete_complete`), so that function is given the call as the first hook
completed it, and its answer comes back through all hooks (`invoke_stack`).

What is proved: the call ends as it did before the monitor was installed and leaves an alert that names the function exactly
if it fits the parameters of the hook, its address can be written, and the function answers the completed call as it answers
the call (`hooked_call_transparent_iff`). A connection that is opened as a socket does it, by the address alone, never fits.
-/
namespace ThreatScan.Hook

def IsAlert (p : Place) (message : String) : Prop :=
  ∃ kind arguments, message = "[ALERT] " ++ kind ++ ": " ++ p.label ++ " called with " ++ arguments

/-! ## Completed calls -/

theorem length_of_bindArgs {named : List (String × Value)} {ps : List Parameter} {vs out : List Value}
    (h : bindArgs named ps vs = some out) : out.length = ps.length := by
  fun_induction bindArgs named ps vs generalizing out with
  | case1 => cases h; rfl
  | case2 => cases h
  | case3 => cases h
  | case4 name default ps v vs hname ih =>
    obtain ⟨rest, hrest, rfl⟩ := Option.map_eq_some_iff.mp h
    simp [ih hrest]
  | case5 name default ps v hname ih =>
    obtain ⟨rest, hrest, rfl⟩ := Option.map_eq_some_iff.mp h
    simp [ih hrest]
  | case6 name ps v hname ih =>
    obtain ⟨rest, hrest, rfl⟩ := Option.map_eq_some_iff.mp h
    simp [ih hrest]
  | case7 => cases h

/-- Arguments that are all given by position are bound as they are. -/
theorem bindArgs_positional {named : List (String × Value)} {ps : List Parameter} {vs : List Value}
    (hl : vs.length = ps.length) (hn : ∀ q ∈ ps, Value.fieldOf? q.1 named = none) : bindArgs named ps vs = some vs := by
  induction ps generalizing vs with
  | nil =>
    rw [List.eq_nil_of_length_eq_zero hl]
    rfl
  | cons q rest ih =>
    cases vs with
    | nil => cases hl
    | cons v vs =>
      rw [bindArgs, hn q List.mem_cons_self, ih (by simpa using hl) fun r hr => hn r (List.mem_cons_of_mem q hr)]
      rfl

theorem complete_of_bindArgs {p : Place} {ps namedOnly : List Parameter} (hp : p.signature = .fixed ps namedOnly)
    {args values : List Value} {named : List (String × Value)}
    (hknown : (named.all fun f => (ps ++ namedOnly).any fun q => q.1 == f.1) = true)
    (hargs : bindArgs named ps args = some args) (hnamed : bindArgs named namedOnly [] = some values)
    (hzip : (namedOnly.map (·.1)).zip values = named) : p.complete ⟨args, named⟩ = some ⟨args, named⟩ := by
  unfold Place.complete
  rw [hp]
  dsimp only
  rw [if_pos hknown, hargs, hnamed, ← hzip]
  rfl

theorem exists_of_complete {p : Place} {ps namedOnly : List Parameter} (hp : p.signature = .fixed ps namedOnly)
    {c full : Call} (h : p.complete c = some full) : ∃ args named, args.length = ps.length ∧
      bindArgs c.named namedOnly [] = some named ∧ full = ⟨args, (namedOnly.map (·.1)).zip named⟩ := by
  unfold Place.complete at h
  rw [hp] at h
  dsimp only at h
  split at h
  · obtain ⟨args, hargs, h⟩ := Option.bind_eq_some_iff.mp h
    obtain ⟨named, hnamed, h⟩ := Option.bind_eq_some_iff.mp h
    cases h
    exact ⟨args, named, length_of_bindArgs hargs, hnamed, rfl⟩
  · cases h

theorem complete_complete {p : Place} {c full : Call} (h : p.complete c = some full) :
    p.complete full = some full := by
  have hpositional : ∀ {ps : List Parameter}, p.signature = .fixed ps [] → p.complete full = some full := by
    intro ps hp
    obtain ⟨args, named, hl, -, rfl⟩ := exists_of_complete hp h
    exact complete_of_bindArgs hp rfl (bindArgs_positional hl fun _ _ => rfl) rfl rfl
  have hfree : p.signature = .free → p.complete full = some full := by
    intro hp
    unfold Place.complete at h ⊢
    rw [hp] at h ⊢
    dsimp only at h ⊢
    split at h
    · cases h
    · next hself =>
      cases h
      rw [if_neg hself]
  cases p with
  | system => exact hpositional rfl
  | popen => exact hpositional rfl
  | connect => exact hpositional rfl
  | call => exact hfree rfl
  | run => exact hfree rfl
  | spawn => exact hfree rfl
  | openFile => exact hpositional rfl
  | openDescriptor =>
    obtain ⟨args, named, hl, hnamed, rfl⟩ := exists_of_complete rfl h
    -- the one parameter given by name only is given by name again
    obtain ⟨dir, rfl⟩ := List.length_eq_one_iff.mp (length_of_bindArgs hnamed)
    exact complete_of_bindArgs rfl rfl (bindArgs_positional hl (by simp [Value.fieldOf?])) rfl rfl

/-! ## Alerts -/

/-- Only the address of a connection may be one that cannot be written. -/
theorem exists_alert {p : Place} (hp : p ≠ .connect) (c : Call) : ∃ text, p.alert c = .ok text := by
  cases p with
  | connect => exact absurd rfl hp
  | system => exact ⟨_, rfl⟩
  | popen => exact ⟨_, rfl⟩
  | call => exact ⟨_, rfl⟩
  | run => exact ⟨_, rfl⟩
  | spawn => exact ⟨_, rfl⟩
  | openFile => exact ⟨_, rfl⟩
  | openDescriptor => exact ⟨_, rfl⟩

def alertMessage (text stack : String) : String := "[ALERT] " ++ text ++ " | stack=" ++ stack

def failureMessage (p : Place) (e : CallError) : String := "[ERROR] " ++ p.label ++ " execution failed: " ++ e.message

theorem exists_of_alert {p : Place} {c : Call} {text : String} (h : p.alert c = .ok text) :
    ∃ kind arguments, text = kind ++ ": " ++ p.label ++ " called with " ++ arguments := by
  have harguments : ∀ p : Place, "SYSCALL: " ++ p.label ++ " called with args=" ++ Place.argsText c.args ++ ", kwargs=" ++
      Place.namedText c.named = "SYSCALL" ++ ": " ++ p.label ++ " called with " ++
        ("args=" ++ Place.argsText c.args ++ ", kwargs=" ++ Place.namedText c.named) := by
    intro p
    have hsplit : " called with args=" = " called with " ++ "args=" := rfl
    rw [hsplit]
    simp only [String.append_assoc]
    rfl
  cases p with
  | system =>
    cases h
    refine ⟨"SYSCALL", "command='" ++ (Place.arg c 0).display ++ "'", ?_⟩
    simp only [← String.append_assoc]
    rfl
  | popen =>
    cases h
    refine ⟨"SYSCALL", "command='" ++ (Place.arg c 0).display ++ "', mode='" ++ (Place.arg c 1).display ++ "'", ?_⟩
    simp only [← String.append_assoc]
    rfl
  | connect =>
    obtain ⟨address, -, h⟩ := Checked.bind_eq_ok.mp h
    cases h
    refine ⟨"NETWORK", "address='" ++ address ++ "'", ?_⟩
    simp only [← String.append_assoc]
    rfl
  | call =>
    cases h
    exact ⟨_, _, harguments .call⟩
  | run =>
    cases h
    exact ⟨_, _, harguments .run⟩
  | spawn =>
    cases h
    exact ⟨_, _, harguments .spawn⟩
  | openFile =>
    cases h
    refine ⟨"FILE OPEN", "file='" ++ (Place.arg c 0).display ++ "', mode='" ++ (Place.arg c 1).display ++ "'", ?_⟩
    simp only [← String.append_assoc]
    rfl
  | openDescriptor =>
    cases h
    refine ⟨"FILE OPEN", "path='" ++ (Place.arg c 0).display ++ "', flags=" ++ (Place.arg c 1).display ++ ", mode=" ++
      (Place.arg c 2).display, ?_⟩
    simp only [← String.append_assoc]
    rfl

theorem isAlert_of_alert {p : Place} {c : Call} {text : String} (h : p.alert c = .ok text) (stack : String) :
    IsAlert p (alertMessage text stack) := by
  obtain ⟨kind, arguments, rfl⟩ := exists_of_alert h
  exact ⟨kind, arguments ++ " | stack=" ++ stack, by simp only [alertMessage, String.append_assoc]⟩

/-! ## Through a stack of hooks -/

/-- What a stack of monitors writes of a call that ends in this way: each its alert and, if the call fails, the failure. -/
def stackMessages (height : Nat) (p : Place) (text stack : String) (o : Outcome) : List String :=
  List.replicate height (alertMessage text stack) ++
    match o with
    | .result _ => []
    | .error e => List.replicate height (failureMessage p e)

/-- One more monitor writes around what the others write. -/
theorem stackMessages_succ (height : Nat) (p : Place) (text stack : String) (o : Outcome) :
    stackMessages (height + 1) p text stack o = alertMessage text stack :: (stackMessages height p text stack o ++
      match o with
      | .result _ => []
      | .error e => [failureMessage p e]) := by
  unfold stackMessages
  cases o with
  | result v => simp [List.replicate_succ]
  | error e =>
    have hlast : List.replicate (height + 1) (failureMessage p e) =
        List.replicate height (failureMessage p e) ++ [failureMessage p e] := List.replicate_succ'
    simp only [hlast, List.replicate_succ, List.cons_append, List.append_assoc]

def saidAt (m : Moment) (messages : List String) : String := logText (messages.map fun message => ⟨m.now, message⟩)

namespace Watch
variable {w : Watch} {m : Moment} {n : Nat} {p : Place} {c : Call} {real : Place → Call → Outcome}

def Spoken (w : Watch) : Prop := ∀ monitor ∈ w.monitors, monitor.destination = .output

def saying (w : Watch) (text : String) : Watch := { w with output := w.output ++ text }

theorem saying_saying (text more : String) : (w.saying text).saying more = w.saying (text ++ more) := by
  simp only [saying, String.append_assoc]

theorem saidAt_append (m : Moment) (said more : List String) : saidAt m (said ++ more) = saidAt m said ++ saidAt m more := by
  rw [saidAt, List.map_append, logText_append]
  rfl

theorem log_of_spoken (hs : w.Spoken) {monitor : Monitor} (hm : w.monitors[n]? = some monitor) (message : String) :
    w.log m n message = w.saying (saidAt m [message]) := by
  have hout := hs monitor (List.mem_of_getElem? hm)
  have hsaid : saidAt m [message] = entry m message := by
    rw [saidAt, List.map_singleton, logText_cons, logText_nil, String.append_empty]
    rfl
  simp only [log, hm, hout, write, hsaid, saying]

/-- A hook passes on the completed call, between its alert and the failure. -/
theorem invoke_hook {full : Call} {text : String} {h : Handler} (hc : p.complete c = some full)
    (ha : p.alert full = .ok text) (hn : w.next? n p = some h) (fuel : Nat) :
    invoke real m (fuel + 1) w (.hook n) p c =
      ((invoke real m fuel (w.log m n (alertMessage text m.stack)) h p full).1,
        match (invoke real m fuel (w.log m n (alertMessage text m.stack)) h p full).1 with
        | .result _ => (invoke real m fuel (w.log m n (alertMessage text m.stack)) h p full).2
        | .error e => (invoke real m fuel (w.log m n (alertMessage text m.stack)) h p full).2.log m n (failureMessage p e)) := by
  have hnext : (w.log m n (alertMessage text m.stack)).next? n p = some h := (next?_log m _ p).trans hn
  rw [invoke_succ, hc]
  simp only [ha]
  rw [show "[ALERT] " ++ text ++ " | stack=" ++ m.stack = alertMessage text m.stack from rfl, hnext]
  dsimp only
  cases (invoke real m fuel (w.log m n (alertMessage text m.stack)) h p full).1 <;> rfl

/-- A call that is completed already goes through all hooks to the function below them, and its end comes back. -/
theorem invoke_stack {text : String} (hc : p.complete c = some c) (ha : p.alert c = .ok text) {order : List Nat}
    (hl : Layered w.monitors order) (hs : w.Spoken) {fuel : Nat} (hf : order.length ≤ fuel) :
    invoke real m fuel w (holder order) p c =
      (real p c, w.saying (saidAt m (stackMessages order.length p text m.stack (real p c)))) := by
  induction order generalizing w fuel with
  | nil =>
    have hquiet : stackMessages 0 p text m.stack (real p c) = [] := by
      unfold stackMessages
      cases real p c <;> rfl
    have hsaying : w.saying (saidAt m []) = w := by simp [saying, saidAt]
    rw [List.length_nil, hquiet, hsaying]
    exact invoke_real real m fuel w p c
  | cons n rest ih =>
    obtain ⟨⟨monitor, hm, -, hsaved⟩, -, hrest⟩ := hl
    obtain ⟨fuel, rfl⟩ : ∃ k, fuel = k + 1 := ⟨fuel - 1, by simp at hf; omega⟩
    have hnext : w.next? n p = some (holder rest) := by simp only [next?, hm, hsaved]
    let alert := alertMessage text m.stack
    -- what was written changes neither the monitors nor where they write
    have hlayered : Layered (w.saying (saidAt m [alert])).monitors rest := hrest
    have hspoken : (w.saying (saidAt m [alert])).Spoken := hs
    have hbelow := ih hlayered hspoken (Nat.le_of_succ_le_succ hf)
    rw [show holder (n :: rest) = .hook n from rfl, invoke_hook hc ha hnext, log_of_spoken hs hm, hbelow,
      List.length_cons, stackMessages_succ, saying_saying, ← saidAt_append]
    cases hr : real p c with
    | result v => simp [alert]
    | error e =>
      have hs' : (w.saying (saidAt m ([alert] ++ stackMessages rest.length p text m.stack (.error e)))).Spoken := hs
      dsimp only
      rw [log_of_spoken hs' hm, saying_saying, ← saidAt_append]
      rfl

theorem invoke_complete {full : Call} (hc : p.complete c = some full) (fuel : Nat) :
    invoke real m fuel w (.hook n) p c = invoke real m fuel w (.hook n) p full := by
  cases fuel with
  | zero => rfl
  | succ fuel => rw [invoke_succ, invoke_succ, hc, complete_complete hc]

end Watch

/-! ## At a place -/

theorem Layered.length_le {monitors : List Monitor} {order : List Nat} (h : Layered monitors order) :
    order.length ≤ monitors.length := by
  have hnodup : order.Nodup := by
    induction order with
    | nil => exact List.nodup_nil
    | cons n rest ih => exact List.nodup_cons.mpr ⟨h.2.1, ih h.2.2⟩
  have hsubset : order ⊆ List.range monitors.length := by
    intro n hn
    obtain ⟨monitor, hm, -⟩ := h.mem hn
    exact List.mem_range.mpr (List.getElem?_eq_some_iff.mp hm).1
  simpa using (List.subperm_of_subset hnodup hsubset).length_le

/-- A course on which only the monitor installed last was ever removed. -/
def Course.Orderly (c : Course) : Prop := ∃ d steps, (start d).Disciplined steps ∧ c = (start d).run steps

theorem Course.Orderly.stacked {c : Course} (h : c.Orderly) : Stacked c := by
  obtain ⟨d, steps, hd, rfl⟩ := h
  exact stacked_run (stacked_start d) hd

namespace Watch

/-- After the monitor is installed the call ends as it did before, and leaves an alert that names the function. -/
def Transparent (real : Place → Call → Outcome) (w : Watch) (n : Nat) (m m' : Moment) (p : Place) (c : Call) : Prop :=
  ((w.install m n).callPlace real m' p c).1 = (w.callPlace real m' p c).1 ∧
  ∃ message rest, IsAlert p message ∧
    ((w.install m n).callPlace real m' p c).2.output = (w.install m n).output ++ entry m' message ++ rest

variable {w : Watch} {order : List Nat} {m : Moment} {n : Nat} {p : Place} {c full : Call} {text : String}
  {real : Place → Call → Outcome}

theorem Spoken.install (h : w.Spoken) (m : Moment) (n : Nat) : (w.install m n).Spoken := by
  cases hf : w.monitors[n]?.any fun monitor => !monitor.installed with
  | false => rwa [install_of_not m hf]
  | true =>
    obtain ⟨monitor, hm, hi⟩ := Option.any_eq_true _ _ |>.mp hf
    intro changed hc
    rw [(install_of_fresh m hm (by simpa using hi)).1] at hc
    rcases List.mem_or_eq_of_mem_set hc with hc | rfl
    · exact h changed hc
    · exact h monitor (List.mem_of_getElem? hm)

/-- A completed call goes to the function that was there from the start. -/
theorem callPlace_of_complete (h : Stacked ⟨w, order⟩) (hs : w.Spoken) (hc : p.complete c = some c)
    (ha : p.alert c = .ok text) : w.callPlace real m p c =
      (real p c, w.saying (saidAt m (stackMessages order.length p text m.stack (real p c)))) := by
  have hlength := h.layered.length_le
  have hplace : w.places p = holder order := h.places p
  unfold callPlace depth
  rw [hplace]
  exact invoke_stack hc ha h.layered hs (Nat.le_succ_of_le hlength)

theorem callPlace_hooked (h : Stacked ⟨w, n :: order⟩) (hs : w.Spoken) (hc : p.complete c = some full)
    (ha : p.alert full = .ok text) : w.callPlace real m p c =
      (real p full, w.saying (saidAt m (stackMessages (order.length + 1) p text m.stack (real p full)))) := by
  have hplace : w.places p = .hook n := h.places p
  rw [← List.length_cons (a := n), ← callPlace_of_complete h hs (complete_complete hc) ha]
  unfold callPlace
  rw [hplace]
  exact invoke_complete hc _

theorem callPlace_refused (h : w.places p = .hook n) (hc : p.complete c = none) :
    w.callPlace real m p c = (.error .badArguments, w) := by
  unfold callPlace depth
  rw [h, invoke_succ, hc]

theorem callPlace_unwritten {e : CallError} (h : w.places p = .hook n) (hc : p.complete c = some full)
    (ha : p.alert full = .error e) : w.callPlace real m p c = (.error e, w) := by
  unfold callPlace depth
  rw [h, invoke_succ, hc]
  simp only [ha]

theorem exists_saidAt_stackMessages (m : Moment) (height : Nat) (p : Place) (text stack : String) (o : Outcome) :
    ∃ rest, saidAt m (stackMessages (height + 1) p text stack o) = entry m (alertMessage text stack) ++ rest := by
  rw [stackMessages_succ, saidAt, List.map_cons, logText_cons]
  exact ⟨_, rfl⟩

theorem output_ne_append_entry (w : Watch) (m : Moment) (message rest : String) :
    w.output ≠ w.output ++ entry m message ++ rest := by
  intro h
  have hlength := congrArg String.length h
  simp only [entry, String.length_append] at hlength
  have hbracket : "[".length = 1 := rfl
  omega

section Installed
variable {m' : Moment} (h : Stacked ⟨w, order⟩) (h' : Stacked ⟨w.install m n, n :: order⟩) (hs : w.Spoken)
include h h' hs

/-- What a call needs to be left as it was. -/
theorem transparent_iff : w.Transparent real n m m' p c ↔ ∃ full, p.complete c = some full ∧
    (∃ text, p.alert full = .ok text) ∧ (w.callPlace real m' p full).1 = (w.callPlace real m' p c).1 := by
  have hplace : (w.install m n).places p = .hook n := h'.places p
  have hs' := hs.install m n
  constructor
  · rintro ⟨hsame, message, rest, -, hsaid⟩
    cases hc : p.complete c with
    | none =>
      rw [callPlace_refused hplace hc] at hsaid
      exact absurd hsaid (output_ne_append_entry _ _ _ _)
    | some full =>
      cases ha : p.alert full with
      | error e =>
        rw [callPlace_unwritten hplace hc ha] at hsaid
        exact absurd hsaid (output_ne_append_entry _ _ _ _)
      | ok text =>
        refine ⟨full, rfl, ⟨text, ha⟩, ?_⟩
        rw [← hsame, callPlace_of_complete h hs (complete_complete hc) ha, callPlace_hooked h' hs' hc ha]
  · rintro ⟨full, hc, ⟨text, ha⟩, hsame⟩
    obtain ⟨rest, hsaid⟩ := exists_saidAt_stackMessages m' order.length p text m'.stack (real p full)
    refine ⟨?_, alertMessage text m'.stack, rest, isAlert_of_alert ha _, ?_⟩
    · rw [callPlace_hooked h' hs' hc ha, ← hsame, callPlace_of_complete h hs (complete_complete hc) ha]
    · rw [callPlace_hooked h' hs' hc ha, hsaid, String.append_assoc]
      rfl

theorem transparent_of_eq (hp : p ≠ .connect) (hc : p.complete c = some full) (hr : real p full = real p c) :
    w.Transparent real n m m' p c := by
  obtain ⟨text, ha⟩ := exists_alert hp full
  refine (transparent_iff h h' hs).mpr ⟨full, hc, ⟨text, ha⟩, ?_⟩
  rw [callPlace_of_complete h hs (complete_complete hc) ha]
  cases order with
  | nil =>
    have hplace : w.places p = .real := h.places p
    simp only [callPlace, hplace, depth, invoke_real, hr]
  | cons k rest => rw [callPlace_hooked h hs hc ha]

end Installed
end Watch

/-- A monitor is installed on a process, on top of any others that are, and then a call is made. It ends as it did before and
leaves an alert exactly if it fits the parameters of the hook, it can be written, and what stood there answers the completed
call as it answers the call. If it does not fit it is refused without a word; otherwise the function that was there from the
start is given the completed call, and every installed monitor writes its alert and the failure of the call. So all calls that
fit are left as they were where the function takes the same parameters with the same defaults, except that a connection opened
on a socket with an address, and a pipe opened with `cmd` by name, never fit. -/
theorem hooked_call_transparent_iff {course : Course} (ho : course.Orderly) (hs : course.watch.Spoken) {n : Nat}
    {monitor : Monitor} (hm : course.watch.monitors[n]? = some monitor) (hi : monitor.installed = false)
    (real : Place → Call → Outcome) (m m' : Moment) (p : Place) (c : Call) :
    (course.watch.Transparent real n m m' p c ↔ ∃ full, p.complete c = some full ∧ (∃ text, p.alert full = .ok text) ∧
      (course.watch.callPlace real m' p full).1 = (course.watch.callPlace real m' p c).1) ∧
    (p.complete c = none →
      (course.watch.install m n).callPlace real m' p c = (.error .badArguments, course.watch.install m n)) ∧
    (∀ full text, p.complete c = some full → p.alert full = .ok text →
      (course.watch.install m n).callPlace real m' p c = (real p full, (course.watch.install m n).saying
        (saidAt m' (stackMessages (course.order.length + 1) p text m'.stack (real p full))))) ∧
    (p ≠ .connect → ∀ full, p.complete c = some full → real p full = real p c →
      course.watch.Transparent real n m m' p c) ∧
    (∀ address, ¬ course.watch.Transparent real n m m' .connect ⟨[address], []⟩) ∧
    (∀ command, ¬ course.watch.Transparent real n m m' .popen ⟨[], [("cmd", command)]⟩) := by
  have h : Stacked ⟨course.watch, course.order⟩ := ho.stacked
  have h' : Stacked ⟨course.watch.install m n, n :: course.order⟩ := h.install m hm hi
  have hunfit : ∀ {p c}, p.complete c = none → ¬ course.watch.Transparent real n m m' p c := by
    intro p c hc htransparent
    obtain ⟨full, hfull, -⟩ := (Watch.transparent_iff h h' hs).mp htransparent
    rw [hc] at hfull
    cases hfull
  refine ⟨Watch.transparent_iff h h' hs, ?_, ?_, ?_, ?_, ?_⟩
  · exact Watch.callPlace_refused (h'.places p)
  · intro full text hc ha
    exact Watch.callPlace_hooked h' (hs.install m n) hc ha
  · intro hp full hc hr
    exact Watch.transparent_of_eq h h' hs hp hc hr
  · -- the hook wants the socket too
    exact fun address => hunfit rfl
  · exact fun command => hunfit rfl

namespace WatchedCall

def moment : Moment := ⟨⟨2024, 1, 2, 3, 4, 5, 678901⟩, "a.py:1"⟩

def course : Course := (Course.start .empty).run [(moment, .make .output), (moment, .make .output), (moment, .install 0)]

/-- Functions with the parameters of the hooks. They answer how many arguments they were given. -/
def counting (p : Place) (c : Call) : Outcome :=
  match p.complete c with
  | some full => .result (.int full.args.length)
  | none => .error .badArguments

/-- The second monitor leaves a pipe as it was. -/
theorem pipe_transparent : course.watch.Transparent counting 1 moment moment .popen ⟨[.str "ls"], []⟩ := by
  have horderly : course.Orderly := ⟨_, _, by decide, rfl⟩
  have hspoken : course.watch.Spoken := by
    have houtput : course.watch.monitors.map Monitor.destination = [.output, .output] := rfl
    intro monitor hm
    simpa [houtput] using List.mem_map_of_mem (f := Monitor.destination) hm
  exact (hooked_call_transparent_iff horderly hspoken (show _ = some (Monitor.fresh .output) from rfl) rfl counting moment
    moment .popen ⟨[.str "ls"], []⟩).2.2.2.1 (by decide) _ rfl rfl

def connecting (_ : Place) (_ : Call) : Outcome := .result .null

def address : Value := .tuple [.str "10.0.0.1", .int 80]

/-- A connection that was opened is refused once a monitor is installed. -/
theorem connection_refused_by_hook :
    ((Watch.single .empty .output).callPlace connecting moment .connect ⟨[address], []⟩).1 = .result .null ∧
    (((Watch.single .empty .output).install moment 0).callPlace connecting moment .connect ⟨[address], []⟩).1 =
      .error .badArguments := ⟨rfl, rfl⟩

end WatchedCall

end ThreatScan.Hook
