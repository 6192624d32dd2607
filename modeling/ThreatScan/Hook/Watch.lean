import ThreatScan.Clock
import ThreatScan.Hook.Place
/-!
Monitors that intercept the calls of a process.

A place holds the function that was there from the start, or the hook of a monitor. Installing a monitor saves what the
places hold and puts its hooks there; removing it puts back what it saved. A hook logs the call, passes it on to the
function that its monitor saved, and logs the failure of that function.
-/
namespace ThreatScan.Hook

inductive Handler where
  | real
  | hook (monitor : Nat)
  deriving DecidableEq, Repr

inductive Destination where
  | output
  | file (path : String)
  deriving DecidableEq, Repr

/-- A monitor: its log, whether it is installed, and what it saved of each place. -/
structure Monitor where
  destination : Destination
  installed : Bool
  saved : Place → Option Handler

def Monitor.fresh (destination : Destination) : Monitor := ⟨destination, false, fun _ => none⟩

inductive Outcome where
  | result (v : Value)
  | error (e : CallError)

namespace Outcome

def toExcept : Outcome → Except CallError Value
  | .result v => .ok v
  | .error e => .error e

def ofExcept : Except CallError Value → Outcome
  | .ok v => .result v
  | .error e => .error e

end Outcome

/-- What can be raised in a process: among it the errors of the hooks themselves. A log tells of errors; what ends the process
is none. -/
structure Raising (ε : Type) where
  own : CallError → ε
  told? : ε → Option String

/-- Nothing is raised but the errors of calls. -/
def Raising.errors : Raising CallError := ⟨id, fun e => some e.message⟩

structure Moment where
  now : Instant
  stack : String

/-- The watch over a process: its monitors, the places, the monitor that the process-wide functions last made, and what
was written. -/
structure Watch where
  monitors : List Monitor
  places : Place → Handler
  shared : Option Nat
  disk : Disk
  output : String
  errors : String

namespace Watch

def start (d : Disk) : Watch := ⟨[], fun _ => .real, none, d, "", ""⟩

def add (w : Watch) (m : Monitor) : Watch := { w with monitors := w.monitors ++ [m] }

def entry (m : Moment) (message : String) : String := "[" ++ m.now.logText ++ "] " ++ message ++ "\n"

/-- Writes to the log of a monitor. A log file that cannot be written is reported as an error of the process. -/
def write (w : Watch) (destination : Destination) (line : String) : Watch :=
  match destination with
  | .output => { w with output := w.output ++ line }
  | .file path =>
    match w.disk.append path line with
    | .ok d => { w with disk := d }
    | .error e => { w with errors := w.errors ++ "Logging error: " ++ e.message ++ "\n" }

def log (w : Watch) (m : Moment) (n : Nat) (message : String) : Watch :=
  match w.monitors[n]? with
  | some monitor => w.write monitor.destination (entry m message)
  | none => w

/-- Installs a monitor; one that is installed stays as it is. -/
def install (w : Watch) (m : Moment) (n : Nat) : Watch :=
  match w.monitors[n]? with
  | none => w
  | some monitor =>
    if monitor.installed then w
    else
      let changed := { monitor with installed := true, saved := fun p => some (w.places p) }
      let w := { w with monitors := w.monitors.set n changed, places := fun _ => .hook n }
      w.log m n "[INFO] Hooks installed successfully"

/-- Removes a monitor: the places hold again what it saved. -/
def uninstall (w : Watch) (m : Moment) (n : Nat) : Watch :=
  match w.monitors[n]? with
  | none => w
  | some monitor =>
    if monitor.installed then
      let w := { w with monitors := w.monitors.set n { monitor with installed := false },
                        places := fun p => (monitor.saved p).getD (w.places p) }
      w.log m n "[INFO] Hooks uninstalled successfully"
    else w

def installShared (w : Watch) (m : Moment) (destination : Destination) : Watch :=
  let n := w.monitors.length
  let w := w.add (.fresh destination)
  { w with shared := some n }.install m n

/-- Removes the monitor last made for the process. -/
def uninstallShared (w : Watch) (m : Moment) : Watch :=
  match w.shared with
  | some n => w.uninstall m n
  | none => w

/-- What the monitor passes a call on to: what it saved, and for opening files without that, what stands there now. -/
def next? (w : Watch) (n : Nat) (p : Place) : Option Handler :=
  match w.monitors[n]? with
  | none => none
  | some monitor =>
    match monitor.saved p, p with
    | some h, _ => some h
    | none, .openFile => some (w.places .openFile)
    | none, _ => none

/-- Functions that answer calls. They act on the process that is watched, and on the rest of the world. -/
abbrev Functions (σ ε : Type) := Place → Call → Watch × σ → Except ε Value × Watch × σ

/-- Calls what stands somewhere. `real` are the functions that were there from the start, and the clock gives the moment at
which something is logged; the fuel bounds the chain of hooks. -/
def invokeOn {σ ε : Type} (raising : Raising ε) (real : Functions σ ε) (clock : Watch × σ → Moment) :
    Nat → Watch × σ → Handler → Place → Call → Except ε Value × Watch × σ
  | _, state, .real, p, c => real p c state
  | 0, state, .hook _, _, _ => (.error (raising.own .endless), state)
  | fuel + 1, (w, s), .hook n, p, c =>
    match p.complete c with
    | none => (.error (raising.own .badArguments), w, s)
    | some c =>
      match p.alert c with
      | .error e => (.error (raising.own e), w, s)
      | .ok text =>
        let m := clock (w, s)
        let w := w.log m n ("[ALERT] " ++ text ++ " | stack=" ++ m.stack)
        let (outcome, w, s) := match w.next? n p with
          | some h => invokeOn raising real clock fuel (w, s) h p c
          | none => (.error (raising.own .notCallable), w, s)
        match outcome with
        | .ok v => (.ok v, w, s)
        | .error e =>
          match raising.told? e with
          | some text => (.error e, w.log (clock (w, s)) n ("[ERROR] " ++ p.label ++ " execution failed: " ++ text), s)
          | none => (.error e, w, s)

def answering (real : Place → Call → Outcome) : Functions Unit CallError := fun p c state => ((real p c).toExcept, state)

/-- Calls what stands somewhere, in a process whose functions only answer and take no time. -/
def invoke (real : Place → Call → Outcome) (m : Moment) (fuel : Nat) (w : Watch) (h : Handler) (p : Place) (c : Call) :
    Outcome × Watch :=
  let ended := invokeOn .errors (answering real) (fun _ => m) fuel (w, ()) h p c
  (.ofExcept ended.1, ended.2.1)

/-- Opening a file without any hook: what can be seen of it is whether it fails. -/
def openOn (d : Disk) (c : Call) : Outcome :=
  match (Opening.ofArguments c.args).bind (·.run d) with
  | .ok _ => .result .null
  | .error e => .error (.notOpened e)

/-- No chain without a loop is longer than the number of monitors. -/
def depth (w : Watch) : Nat := w.monitors.length + 1

/-- Calls the hook of a monitor, installed or not, in a process whose functions act on it. -/
def callHookOn {σ ε : Type} (raising : Raising ε) (real : Functions σ ε) (clock : Watch × σ → Moment) (n : Nat) (p : Place)
    (c : Call) (state : Watch × σ) : Except ε Value × Watch × σ :=
  invokeOn raising real clock state.1.depth state (.hook n) p c

/-- Calls the hook of a monitor, installed or not. -/
def callHook (real : Place → Call → Outcome) (m : Moment) (w : Watch) (n : Nat) (p : Place) (c : Call) :
    Outcome × Watch :=
  invoke real m w.depth w (.hook n) p c

def callPlace (real : Place → Call → Outcome) (m : Moment) (w : Watch) (p : Place) (c : Call) : Outcome × Watch :=
  invoke real m w.depth w (w.places p) p c

def hooked (w : Watch) : List Place := Place.all.filter fun p => w.places p != .real

theorem invoke_real (real : Place → Call → Outcome) (m : Moment) (fuel : Nat) (w : Watch) (p : Place) (c : Call) :
    invoke real m fuel w .real p c = (real p c, w) := by
  unfold invoke answering
  rw [invokeOn]
  cases real p c <;> rfl

theorem invoke_succ (real : Place → Call → Outcome) (m : Moment) (fuel : Nat) (w : Watch) (n : Nat) (p : Place) (c : Call) :
    invoke real m (fuel + 1) w (.hook n) p c =
      match p.complete c with
      | none => (.error .badArguments, w)
      | some c =>
        match p.alert c with
        | .error e => (.error e, w)
        | .ok text =>
          let w := w.log m n ("[ALERT] " ++ text ++ " | stack=" ++ m.stack)
          let (outcome, w) := match w.next? n p with
            | some h => invoke real m fuel w h p c
            | none => (.error .notCallable, w)
          match outcome with
          | .result v => (.result v, w)
          | .error e => (.error e, w.log m n ("[ERROR] " ++ p.label ++ " execution failed: " ++ e.message)) := by
  unfold invoke
  rw [invokeOn]
  cases p.complete c with
  | none => rfl
  | some c =>
    dsimp only
    cases p.alert c with
    | error e => rfl
    | ok text =>
      dsimp only
      cases (w.log m n ("[ALERT] " ++ text ++ " | stack=" ++ m.stack)).next? n p with
      | none => rfl
      | some h =>
        dsimp only
        cases (invokeOn .errors (answering real) (fun _ => m) fuel
          (w.log m n ("[ALERT] " ++ text ++ " | stack=" ++ m.stack), ()) h p c).1 <;> rfl

end Watch
end ThreatScan.Hook
