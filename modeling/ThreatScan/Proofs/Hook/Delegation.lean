import ThreatScan.Proofs.Disk.Scope
import ThreatScan.Proofs.Hook.Transparent
/-!
What a hook does with a call: it passes it on, once, and says so.

The hooks of a monitor that is not installed are called in a process whose functions may do anything: they act on the process
and on the world, and they answer or raise something. A call that fits the parameters of the hook (`Place.Fits`) is completed
with the defaults (`Place.Fills`); the function is given the completed call, and the hook ends as the function does. Before
the call the hook notes an alert, and behind it the error that the function raised, if it is one (`Watch.Noted`). A log that
cannot be written takes nothing, and changes nothing else but what the process reports as errors.
-/
namespace ThreatScan.Disk

variable {d : Disk} {path : String}

/-- The text stands behind what the file at the path held; a file that was missing holds nothing else. No other file is
touched. -/
structure Extended (d : Disk) (path text : String) (d' : Disk) : Prop where
  grown : ∀ c, d.read path = .ok c → d'.read path = .ok (addText c text)
  made : d.entry? path = none → d'.read path = .ok (.text text)
  others : ∃ l, d.locate path = .ok l ∧ OnlyAt l d d'

theorem onlyAt_of_write {d' : Disk} {c : Content} (h : d.write path c = .ok d') :
    ∃ l, d.locate path = .ok l ∧ OnlyAt l d d' := by
  obtain ⟨-, l, hl, hfree, rfl⟩ := write_eq_ok.mp h
  exact ⟨l, hl, .set hfree.not_dir _⟩

theorem Accepts.exists_append (h : d.Accepts path) (text : String) :
    ∃ d', d.append path text = .ok d' ∧ Extended d path text d' := by
  unfold append
  split
  · next c denial hentry =>
    obtain ⟨d', hd⟩ := h.exists_write (addText c text)
    refine ⟨d', hd, fun c' hread => ?_, fun hmissing => ?_, onlyAt_of_write hd⟩
    · cases hentry.symm.trans (entry?_of_read hread)
      exact read_write hd
    · cases hentry.symm.trans hmissing
  · next hentry =>
    obtain ⟨d', hd⟩ := h.exists_write (.text text)
    refine ⟨d', hd, fun c hread => ?_, fun _ => read_write hd, onlyAt_of_write hd⟩
    exact absurd (entry?_of_read hread) (hentry c none)

theorem exists_error_of_not_accepts (h : ¬ d.Accepts path) (text : String) : ∃ e, d.append path text = .error e := by
  have hwrite : ∀ c, ∃ e, d.write path c = .error e := by
    intro c
    cases hc : d.write path c with
    | error e => exact ⟨e, rfl⟩
    | ok d' =>
      -- whether a file can be written does not depend on what is written
      obtain ⟨hslash, l, hl, hfree, -⟩ := write_eq_ok.mp hc
      exact absurd ⟨_, write_eq_ok.mpr ⟨hslash, l, hl, hfree, rfl⟩⟩ h
  unfold append
  split <;> exact hwrite _

end ThreatScan.Disk

namespace ThreatScan.Hook

/-! ## Calls that fit -/

/-- What a call gives for a parameter: the argument at its position, or the one of its name, or else the default. -/
def Call.given (c : Call) (i : Nat) (q : Parameter) : Option Value :=
  (c.args[i]?).or ((Value.fieldOf? q.1 c.named).or q.2)

namespace Place

/-- The call fits the parameters: there are no unknown names and not too many arguments, no parameter is given twice, and each
that is not given has a default. A free call must not name the receiver. -/
def Fits (p : Place) (c : Call) : Prop :=
  match p.signature with
  | .free => Value.fieldOf? "self" c.named = none
  | .fixed parameters namedOnly =>
    (∀ f ∈ c.named, ∃ q ∈ parameters ++ namedOnly, q.1 = f.1) ∧ c.args.length ≤ parameters.length ∧
    (∀ q ∈ parameters.take c.args.length, Value.fieldOf? q.1 c.named = none) ∧
    ∀ q ∈ parameters.drop c.args.length ++ namedOnly, ((Value.fieldOf? q.1 c.named).or q.2).isSome = true

/-- The second call is the first one with the defaults filled in. -/
def Fills (p : Place) (c full : Call) : Prop :=
  match p.signature with
  | .free => full = c
  | .fixed parameters namedOnly =>
    full.args.map some = parameters.mapIdx c.given ∧
    full.named.map (fun f => (f.1, some f.2)) = namedOnly.map fun q => (q.1, (Value.fieldOf? q.1 c.named).or q.2)

end Place

theorem exists_bindArgs {named : List (String × Value)} {ps : List Parameter} {vs : List Value} (hl : vs.length ≤ ps.length)
    (htwice : ∀ q ∈ ps.take vs.length, Value.fieldOf? q.1 named = none)
    (hgiven : ∀ q ∈ ps.drop vs.length, ((Value.fieldOf? q.1 named).or q.2).isSome = true) :
    ∃ out, bindArgs named ps vs = some out ∧ out.map some = ps.mapIdx (Call.given ⟨vs, named⟩) := by
  fun_induction bindArgs named ps vs with
  | case1 => exact ⟨[], rfl, rfl⟩
  | case2 => simp at hl
  | case3 name default ps v vs hname =>
    have hnone := htwice (name, default) (by simp)
    simp [hnone] at hname
  | case4 name default ps v vs hname ih =>
    obtain ⟨out, hout, hvalues⟩ := ih (by simpa using hl) (fun q hq => htwice q (by simp [hq])) (by simpa using hgiven)
    refine ⟨v :: out, by rw [hout]; rfl, ?_⟩
    rw [List.map_cons, hvalues, List.mapIdx_cons]
    rfl
  | case5 name default ps v hname ih | case6 name ps v hname ih =>
    obtain ⟨out, hout, hvalues⟩ := ih (by simp) (by simp) (fun q hq => hgiven q (List.mem_cons_of_mem _ hq))
    refine ⟨v :: out, by rw [hout]; rfl, ?_⟩
    rw [List.map_cons, hvalues, List.mapIdx_cons, Call.given, hname]
    rfl
  | case7 name ps hname =>
    have hsome := hgiven (name, none) (by simp)
    simp [hname] at hsome

theorem mapIdx_given_nil (named : List (String × Value)) (ps : List Parameter) :
    ps.mapIdx (Call.given ⟨[], named⟩) = ps.map fun q => (Value.fieldOf? q.1 named).or q.2 := by
  have hgiven : Call.given ⟨[], named⟩ = fun _ q => (Value.fieldOf? q.1 named).or q.2 := by
    funext i q
    simp [Call.given]
  rw [hgiven]
  induction ps with
  | nil => rfl
  | cons q rest ih => rw [List.mapIdx_cons, List.map_cons, ih]

theorem Place.Fits.exists_complete {p : Place} {c : Call} (h : p.Fits c) : ∃ full, p.complete c = some full ∧ p.Fills c full := by
  unfold Place.Fits at h
  unfold Place.complete Place.Fills
  cases hp : p.signature with
  | free =>
    rw [hp] at h
    dsimp only at h ⊢
    refine ⟨c, ?_, rfl⟩
    rw [h]
    rfl
  | fixed parameters namedOnly =>
    rw [hp] at h
    obtain ⟨hknown, hlength, htwice, hgiven⟩ := h
    have hknown : (c.named.all fun f => (parameters ++ namedOnly).any fun q => q.1 == f.1) = true := by
      rw [List.all_eq_true]
      intro f hf
      obtain ⟨q, hq, hname⟩ := hknown f hf
      exact List.any_eq_true.mpr ⟨q, hq, by simpa using hname⟩
    obtain ⟨args, hargs, hvalues⟩ := exists_bindArgs hlength htwice fun q hq => hgiven q (List.mem_append_left _ hq)
    obtain ⟨named, hnamed, hothers⟩ : ∃ named, bindArgs c.named namedOnly [] = some named ∧
        named.map some = namedOnly.mapIdx (Call.given ⟨[], c.named⟩) :=
      exists_bindArgs (by simp) (by simp) fun q hq => hgiven q (List.mem_append_right _ hq)
    dsimp only
    refine ⟨⟨args, (namedOnly.map (·.1)).zip named⟩, ?_, hvalues, ?_⟩
    · rw [if_pos hknown, hargs, hnamed]
      rfl
    · -- a parameter that can be given by name only has no position
      have hpairs : (namedOnly.map (·.1)).zip (named.map some) =
          namedOnly.map fun q => (q.1, (Value.fieldOf? q.1 c.named).or q.2) := by
        rw [hothers, mapIdx_given_nil, List.zip_map']
      rw [← hpairs, List.zip_map_right]
      rfl

/-- Of a connection the address can be written: it is no tuple, or one of a host and a port. -/
theorem exists_alert_of_fills {p : Place} {c full : Call} (h : p.Fills c full)
    (haddress : p = .connect → ∀ parts, c.given 1 ("address", none) = some (.tuple parts) → 2 ≤ parts.length) :
    ∃ text, p.alert full = .ok text := by
  by_cases hp : p = .connect
  · subst hp
    have hargs : full.args.map some = [c.given 0 ("self_socket", none), c.given 1 ("address", none)] := h.1
    obtain ⟨args, named⟩ := full
    obtain ⟨socket, address, rfl⟩ := List.length_eq_two.mp (by simpa using congrArg List.length hargs)
    have hgiven : c.given 1 ("address", none) = some address := (List.cons.inj (List.cons.inj hargs).2).1.symm
    have htext : ∃ text, Place.addressText address = .ok text := by
      cases address with
      | tuple parts =>
        have htwo := haddress rfl parts hgiven
        match parts, htwo with
        | host :: port :: more, _ => exact ⟨_, rfl⟩
      | _ => exact ⟨_, rfl⟩
    obtain ⟨text, htext⟩ := htext
    exact ⟨_, by rw [Place.alert, Place.arg, List.getElem?_cons_succ, List.getElem?_cons_zero, Option.getD_some, htext]; rfl⟩
  · exact exists_alert hp full

/-! ## Entries in the log -/

namespace Watch

/-- The entry is noted in the log of the monitor, and nothing else is done: it is written to the output, or put behind what the
log file holds. If the file cannot be written the entry is lost, and only the errors of the process tell of it. -/
def Noted (w : Watch) (n : Nat) (e : LogEntry) (w' : Watch) : Prop :=
  ∀ monitor, w.monitors[n]? = some monitor →
    match monitor.destination with
    | .output => w' = { w with output := w.output ++ e.text }
    | .file path =>
      (w.disk.Accepts path → ∃ d, w.disk.Extended path e.text d ∧ w' = { w with disk := d }) ∧
      (¬ w.disk.Accepts path → ∃ why, w' = { w with errors := w.errors ++ "Logging error: " ++ why ++ "\n" })

theorem noted_log (w : Watch) (m : Moment) (n : Nat) (message : String) :
    w.Noted n ⟨m.now, message⟩ (w.log m n message) := by
  intro monitor hm
  have htext : entry m message = LogEntry.text ⟨m.now, message⟩ := rfl
  simp only [log, hm, htext]
  cases monitor.destination with
  | output => rfl
  | file path =>
    constructor
    · intro haccepts
      obtain ⟨d, hd, hextended⟩ := haccepts.exists_append (LogEntry.text ⟨m.now, message⟩)
      exact ⟨d, hextended, by simp only [write, hd]⟩
    · intro hrefused
      obtain ⟨e, he⟩ := Disk.exists_error_of_not_accepts hrefused (LogEntry.text ⟨m.now, message⟩)
      exact ⟨e.message, by simp only [write, he]⟩

/-! ## One call -/

/-- The monitor is not installed, nor is any other; what it saved are the functions that were there from the start. -/
def AtRest (w : Watch) (n : Nat) : Prop :=
  (∃ monitor, w.monitors[n]? = some monitor ∧ monitor.installed = false ∧ ∀ p, monitor.saved p = some .real) ∧
  ∀ p, w.places p = .real

/-- The functions with a record of the calls that are made to them. -/
def Functions.recorded {σ ε : Type} (real : Functions σ ε) : Functions (σ × List (Place × Call)) ε := fun p c state =>
  let answer := real p c (state.1, state.2.1)
  (answer.1, answer.2.1, answer.2.2, state.2.2 ++ [(p, c)])

variable {σ ε : Type} {raising : Raising ε} {real : Functions σ ε} {clock : Watch × σ → Moment} {w : Watch} {n : Nat}
  {p : Place} {c full : Call} {text : String}

/-- What a hook notes of the end of a call: the error that was raised. -/
def noting (raising : Raising ε) (m : Moment) (n : Nat) (p : Place) (w : Watch) : Except ε Value → Watch
  | .ok _ => w
  | .error e =>
    match raising.told? e with
    | some text => w.log m n ("[ERROR] " ++ p.label ++ " execution failed: " ++ text)
    | none => w

/-- A hook passes the completed call on to the function, between its two entries. -/
theorem callHookOn_eq {noted : Watch} {s : σ} (hn : w.next? n p = some .real) (hc : p.complete c = some full)
    (ha : p.alert full = .ok text)
    (hnoted : w.log (clock (w, s)) n (alertMessage text (clock (w, s)).stack) = noted) :
    callHookOn raising real clock n p c (w, s) =
      let answer := real p full (noted, s)
      (answer.1, noting raising (clock answer.2) n p answer.2.1 answer.1, answer.2.2) := by
  have hnext : noted.next? n p = some .real := by rw [← hnoted, next?_log, hn]
  unfold callHookOn depth
  rw [invokeOn, hc]
  simp only [ha]
  rw [show w.log (clock (w, s)) n ("[ALERT] " ++ text ++ " | stack=" ++ (clock (w, s)).stack) = noted from hnoted, hnext]
  dsimp only
  rw [invokeOn]
  cases (real p full (noted, s)).1 with
  | ok v => simp only [noting]
  | error e =>
    simp only [noting]
    cases raising.told? e <;> rfl

theorem AtRest.next? (h : w.AtRest n) (p : Place) : w.next? n p = some .real := by
  obtain ⟨⟨monitor, hm, -, hsaved⟩, -⟩ := h
  simp only [Watch.next?, hm, hsaved]

end Watch

namespace UnwritableLog

def watch : Watch :=
  (Watch.start .empty).add { Monitor.fresh (.file "no/such/hooks.log") with saved := fun _ => some .real }

/-- Whatever is raised is told of, except for what ends the process. -/
def raising : Raising String := ⟨CallError.message, fun e => if e = "exit" then none else some e⟩

def failing : Watch.Functions Nat String := fun _ _ state => (.error "boom", state.1, state.2 + 1)

def pipe : Call := ⟨[.str "ls"], []⟩

end UnwritableLog
end ThreatScan.Hook
