import ThreatScan.Proofs.Checked
import ThreatScan.Proofs.Disk.Files
import ThreatScan.Proofs.Host.Act
import ThreatScan.Sandbox.Fuzz
/-!
When a run in the sandbox comes to its end.

A run writes the head of its log and its script (`prepared`), starts a child process, and removes the script. It has a result
exactly if both files could be written and the process was started (`gives_run`, `exists_gives_run`); how the process ends,
and what it does to the log, does not matter. A series of tests always comes to its end (`succeeds_fuzz`), since a test whose
run fails counts as a crash.
-/
namespace ThreatScan

namespace Sandbox

open Act

def nextScript (h : Host) : String := Path.temp ++ "/hook_runner_" ++ Text.padded 8 (h.named + 1) ++ ".py"

/-- The disk that the child process is started on: with the head of the log and the script. -/
def prepared (h : Host) (target : String) (args : List String) (timeout : Value) : Except DiskError Disk := do
  let log := defaultLog h.now
  let d ← h.disk.makeDirs (Path.dirName log)
  let d ← d.write log (.text (logHead h.now target args timeout))
  d.write (nextScript h) (.text (script target log args))

/-- The same for a log under any name. -/
def preparedFor (log : String) (h : Host) (target : String) (args : List String) (timeout : Value) : Except DiskError Disk := do
  let d ← h.disk.makeDirs (Path.dirName log)
  let d ← d.write log (.text (logHead h.now target args timeout))
  d.write (nextScript h) (.text (script target log args))

def without (canRemove : Bool) (path : String) (d : Disk) : Disk :=
  if canRemove then
    match d.remove path with
    | .ok d => d
    | .error _ => d
  else d

/-- The disk that the run leaves: with what the child process did to the log, and without the script if that can be
removed. -/
def left (h : Host) (d : Disk) : Disk :=
  without h.canRemove (nextScript h) (touchLog (h.runs h.started) (defaultLog h.now) d)

def Starts (h : Host) : Prop := (h.runs h.started).failure = none

def afterChild (log : String) (h : Host) : Host :=
  { h with started := h.started + 1, disk := touchLog (h.runs h.started) log h.disk }

def childResult (log : String) (timeout : Value) (h : Host) : SandboxResult :=
  let run := h.runs h.started
  let entries := readLog (afterChild log h).disk log
  if run.timedOut then
    ⟨-1, "", "Execution timed out after " ++ timeout.display ++ " seconds", timeout, log, entries, true⟩
  else ⟨run.code, run.output, run.errors, .float run.elapsed, log, entries, false⟩

theorem logFile_childResult (log : String) (timeout : Value) (h : Host) : (childResult log timeout h).logFile = log := by
  unfold childResult
  dsimp only
  split <;> rfl

theorem outcome_runChild (log : String) (timeout : Value) (h : Host) :
    (runChild log timeout).outcome h = (match (h.runs h.started).failure with
      | some reason => .error (.notStarted reason)
      | none => .ok (childResult log timeout h), afterChild log h) := by
  have hnext : (always Host.nextRun).outcome h = (.ok (h.runs h.started), { h with started := h.started + 1 }) := rfl
  unfold runChild childResult afterChild
  rw [outcome_bind, hnext]
  generalize h.runs h.started = run
  obtain ⟨code, output, errors, log', drops, failure, timedOut, elapsed⟩ := run
  cases failure with
  | some reason => rfl
  | none => cases timedOut <;> rfl

theorem touchLog_eq (run : ChildRun) (log : String) (d : Disk) : touchLog run log d =
    let d₁ := (d.append log (String.join (run.log.map (· ++ "\n")))).toOption.getD d
    if run.dropsLog then (d₁.remove log).toOption.getD d₁ else d₁ := by
  unfold touchLog
  cases d.append log _ with
  | ok d₁ => cases hremove : d₁.remove log <;> simp [hremove, Except.toOption]
  | error e => cases hremove : d.remove log <;> simp [hremove, Except.toOption]

theorem after_remove (path : String) (h : Host) :
    (Host.after (Host.remove path) h).2 = { h with disk := without h.canRemove path h.disk } := by
  unfold Host.remove without
  rw [Host.after_bind, Host.after_get]
  dsimp only
  split
  · cases h.disk.remove path <;> rfl
  · rfl

/-- What is not there cannot be removed either. -/
theorem without_of_missing (canRemove : Bool) {path : String} {d : Disk} (h : ¬ d.has path = true) :
    without canRemove path d = d := by
  unfold without
  split
  · split
    · next d' hd => exact absurd (Disk.has_of_remove hd) h
    · rfl
  · rfl

theorem after_cleanUp (path : String) (h : Host) :
    (Host.after (cleanUp path) h).2 = { h with disk := without h.canRemove path h.disk } := by
  unfold cleanUp
  rw [Host.after_bind, Host.after_get]
  dsimp only
  split
  · exact after_remove path h
  · next hmissing =>
    rw [without_of_missing _ hmissing]
    rfl

section Run
variable {target : String} {args : List String} {timeout : Value} {h h' : Host}

theorem gives_writeScript {log path : String} : Gives (writeScript target log args) h path h' ↔ path = nextScript h ∧
    ∃ d, h.disk.write (nextScript h) (.text (script target log args)) = .ok d ∧
      h' = { h with named := h.named + 1, disk := d } := by
  have hname : Gives (liftM Host.tempName) h (Text.padded 8 (h.named + 1)) { h with named := h.named + 1 } := rfl
  constructor
  · intro hg
    obtain ⟨name, h₁, hn, hg⟩ := gives_bind.mp hg
    cases hname.symm.trans hn
    obtain ⟨_, h₂, hw, hg⟩ := gives_bind.mp hg
    obtain ⟨d, hd, rfl⟩ := gives_onDisk.mp hw
    obtain ⟨rfl, rfl⟩ := gives_pure.mp hg
    exact ⟨rfl, d, hd, rfl⟩
  · rintro ⟨rfl, d, hd, rfl⟩
    refine gives_bind.mpr ⟨_, _, hname, gives_bind.mpr ⟨(), _, gives_onDisk.mpr ⟨d, hd, rfl⟩, gives_pure.mpr ⟨rfl, rfl⟩⟩⟩

/-- The parts of a run that do not fail: the files are prepared, the child process runs, and the script is removed. -/
theorem gives_run_iff {log : Option String} {r : SandboxResult} : Gives (run target args timeout log) h r h' ↔
    ∃ d h₂, preparedFor (log.getD (defaultLog h.now)) h target args timeout = .ok d ∧
      Gives (runChild (log.getD (defaultLog h.now)) timeout) { h with named := h.named + 1, disk := d } r h₂ ∧
      (Host.after (cleanUp (nextScript h)) h₂).2 = h' := by
  constructor
  · intro hg
    obtain ⟨g, h₁, hget, hg⟩ := gives_bind.mp hg
    obtain ⟨rfl, rfl⟩ := gives_get.mp hget
    obtain ⟨_, h₂, hdirs, hg⟩ := gives_bind.mp hg
    obtain ⟨d₁, hd₁, rfl⟩ := gives_onDisk.mp hdirs
    obtain ⟨_, h₃, hlog, hg⟩ := gives_bind.mp hg
    obtain ⟨d₂, hd₂, rfl⟩ := gives_onDisk.mp hlog
    obtain ⟨path, h₄, hscript, hg⟩ := gives_bind.mp hg
    obtain ⟨rfl, d, hd, rfl⟩ := gives_writeScript.mp hscript
    obtain ⟨result, h₅, hchild, hg⟩ := gives_bind.mp hg
    obtain ⟨_, h₆, hclean, hg⟩ := gives_bind.mp hg
    obtain ⟨rfl, rfl⟩ := gives_check.mp hg
    refine ⟨d, h₅, ?_, gives_always.mp hchild, ?_⟩
    · exact Checked.bind_eq_ok.mpr ⟨d₁, hd₁, Checked.bind_eq_ok.mpr ⟨d₂, hd₂, hd⟩⟩
    · have hafter := gives_always.mp hclean
      exact congrArg Prod.snd hafter
  · rintro ⟨d, h₂, hd, hchild, rfl⟩
    obtain ⟨d₁, hd₁, hd⟩ := Checked.bind_eq_ok.mp hd
    obtain ⟨d₂, hd₂, hd⟩ := Checked.bind_eq_ok.mp hd
    refine gives_bind.mpr ⟨h, h, gives_get.mpr ⟨rfl, rfl⟩, ?_⟩
    refine gives_bind.mpr ⟨(), _, gives_onDisk.mpr ⟨d₁, hd₁, rfl⟩, ?_⟩
    refine gives_bind.mpr ⟨(), _, gives_onDisk.mpr ⟨d₂, hd₂, rfl⟩, ?_⟩
    refine gives_bind.mpr ⟨_, _, gives_writeScript.mpr ⟨rfl, d, hd, rfl⟩, ?_⟩
    refine gives_bind.mpr ⟨.ok r, h₂, gives_always.mpr hchild, ?_⟩
    rcases hclean : Host.after (cleanUp (nextScript h)) h₂ with ⟨u, h₃⟩
    exact gives_bind.mpr ⟨u, h₃, gives_always.mpr hclean, gives_check.mpr ⟨rfl, rfl⟩⟩

/-- A run with a result was prepared and started. It reports what the child process did, and leaves the disk with what that did
to the log, and without the script. -/
theorem gives_run_for {log : Option String} {r : SandboxResult} (hg : Gives (run target args timeout log) h r h') :
    ∃ d, preparedFor (log.getD (defaultLog h.now)) h target args timeout = .ok d ∧ Starts h ∧
      r = childResult (log.getD (defaultLog h.now)) timeout { h with named := h.named + 1, disk := d } ∧
      h'.disk = without h.canRemove (nextScript h) (touchLog (h.runs h.started) (log.getD (defaultLog h.now)) d) := by
  obtain ⟨d, h₂, hd, hchild, rfl⟩ := gives_run_iff.mp hg
  unfold Gives at hchild
  rw [outcome_runChild] at hchild
  obtain ⟨hresult, rfl⟩ := Prod.mk.inj hchild
  refine ⟨d, hd, ?_⟩
  split at hresult
  · cases hresult
  · next hs =>
    refine ⟨hs, (Except.ok.inj hresult).symm, ?_⟩
    rw [after_cleanUp, afterChild]

theorem gives_run {r : SandboxResult} (hg : Gives (run target args timeout none) h r h') :
    ∃ d, prepared h target args timeout = .ok d ∧ Starts h ∧ r.logFile = defaultLog h.now ∧ h'.disk = left h d := by
  obtain ⟨d, hd, hs, rfl, hdisk⟩ := gives_run_for hg
  exact ⟨d, hd, hs, logFile_childResult _ _ _, hdisk⟩

theorem exists_gives_run_for {log : Option String} {d : Disk}
    (hd : preparedFor (log.getD (defaultLog h.now)) h target args timeout = .ok d) (hs : Starts h) :
    ∃ r h', Gives (run target args timeout log) h r h' := by
  let path := log.getD (defaultLog h.now)
  let g : Host := { h with named := h.named + 1, disk := d }
  have hchild : Gives (runChild path timeout) g (childResult path timeout g) (afterChild path g) := by
    have hstart : (g.runs g.started).failure = none := hs
    unfold Gives
    rw [outcome_runChild, hstart]
  exact ⟨_, _, gives_run_iff.mpr ⟨d, _, hd, hchild, rfl⟩⟩

theorem exists_gives_run {d : Disk} (hd : prepared h target args timeout = .ok d) (hs : Starts h) :
    ∃ r h', Gives (run target args timeout none) h r h' := exists_gives_run_for hd hs

end Run

/-- A host with an empty disk, on which only child processes can do anything. -/
def bareHost (runs : Nat → ChildRun) : Host where
  disk := .empty
  now := ⟨2024, 1, 2, 3, 4, 5, 0⟩
  parser := fun _ => ⟨none, none, none⟩
  loader := fun _ => .ok .null
  goCompiler := ⟨false, .timedOut⟩
  javaCompiler := ⟨false, .timedOut⟩
  runs := runs
  started := 0
  draws := fun _ => 0
  drawn := 0
  named := 0
  canRemove := true
  printed := ""

end Sandbox

namespace Fuzz

open Act

theorem succeeds_randomTexts (n : Nat) : Succeeds (randomTexts n) := by
  have htext : Succeeds (randomText 1 50) := by
    have hlength : Succeeds (Host.randomBetween 1 50) := fun _ => ⟨_, _, rfl⟩
    exact hlength.bind' fun _ => (Succeeds.always _).bind' fun _ => Succeeds.pure' _
  induction n with
  | zero => exact Succeeds.pure' []
  | succ n ih => exact htext.bind' fun text => ih.bind' fun texts => Succeeds.pure' (text :: texts)

theorem succeeds_fuzz (target : String) (count : Int) (limit : Value) : Succeeds (run target count limit) := by
  have hcases : Succeeds (cases count) := (succeeds_randomTexts _).bind' fun _ => Succeeds.pure' _
  exact hcases.bind' fun inputs => Succeeds.mapM (fun _ => Succeeds.always _) inputs

end Fuzz

end ThreatScan
