import ThreatScan.Proofs.Host.Within
/-!
What a run in the sandbox leaves behind.

However a run ends, the disk has no new file but the log (`OnlyNew`): a run that fails before its script is written has worked on
the log only (`fails_run`), and behind any other end the script is removed (`onlyNew_without`). A run has a result whenever its
files can be prepared and the child process be started. The result is that of the child process, but for one that exceeds its time,
and a log that is missing by then is reported in its place (`readLog_of_missing`).
-/
namespace ThreatScan

open Disk (Worked)

namespace Disk

variable {d d' : Disk}

/-- Every file of the second disk stood on the first, but for the one at the path. -/
def OnlyNew (path : String) (d d' : Disk) : Prop :=
  ∀ l c denial, d'.get? l = some (.file c denial) → d.get? l = some (.file c denial) ∨ d'.locate path = .ok l

/-- The scope of work on a log and on other files, with directories made for them. -/
def logScope (log : String) (others : String → Prop) : Scope := ⟨fun p => p = log ∨ others p, fun _ => True, fun _ => False⟩

/-- Work on a log and on other files brings no new file but the log if the others are gone in the end. -/
theorem Worked.onlyNew {log : String} {others : String → Prop} (hw : Worked (logScope log others) d d')
    (hgone : ∀ p l c denial, others p → d'.locate p = .ok l → d'.get? l ≠ some (.file c denial)) : OnlyNew log d d' := by
  intro l c denial hfile
  rcases (hw.grown fun _ h => h).places l with ⟨p, hp, hl⟩ | hsame | ⟨-, hdir, -⟩
  · rcases hp with rfl | hp
    · exact .inr hl
    · exact absurd hfile (hgone p l c denial hp hl)
  · exact .inl (hsame ▸ hfile)
  · rw [hdir] at hfile
    cases hfile

end Disk

namespace Sandbox

open Act
open Disk (OnlyNew logScope)

theorem get?_without {path : String} (hslash : Text.endsWith path "/" = false) {d : Disk} {l : Location}
    (hl : (without true path d).locate path = .ok l) (c : Content) (denial : Option Denial) :
    (without true path d).get? l ≠ some (.file c denial) := by
  rw [without, if_pos rfl] at hl ⊢
  cases hremove : d.remove path with
  | ok d' =>
    rw [hremove] at hl
    dsimp only at hl ⊢
    rw [Disk.get?_of_remove hremove hl]
    exact Option.some_ne_none _ |>.symm
  | error e =>
    rw [hremove] at hl
    dsimp only at hl ⊢
    intro hfile
    cases hremove.symm.trans (Disk.remove_eq_ok.mpr ⟨hslash, l, c, denial, hl, hfile, rfl⟩)

section Run
variable {target log : String} {args : List String} {timeout : Value} {h h' : Host} {d : Disk}

theorem preparedFor_eq_ok : preparedFor log h target args timeout = .ok d ↔
    ∃ d₁ d₂, h.disk.makeDirs (Path.dirName log) = .ok d₁ ∧ d₁.write log (.text (logHead h.now target args timeout)) = .ok d₂ ∧
      d₂.write (nextScript h) (.text (script target log args)) = .ok d := by
  simp only [preparedFor, Checked.bind_eq_ok, exists_and_left]

/-- The files are prepared, the child process works on the log, and the script is removed: the log is the only new file. -/
theorem onlyNew_without (hremove : h.canRemove = true) (hd : preparedFor log h target args timeout = .ok d) (run : ChildRun) :
    OnlyNew log h.disk (without h.canRemove (nextScript h) (touchLog run log d)) := by
  obtain ⟨d₁, d₂, hd₁, hd₂, hd₃⟩ := preparedFor_eq_ok.mp hd
  obtain ⟨hslash, -⟩ := Disk.write_eq_ok.mp hd₃
  have hlog : (logScope log (· = nextScript h)).files log := .inl rfl
  have hscript : (logScope log (· = nextScript h)).files (nextScript h) := .inr rfl
  have hwork : Worked (logScope log (· = nextScript h)) h.disk (without h.canRemove (nextScript h) (touchLog run log d)) :=
    (Worked.makeDirs (fun _ _ => trivial) hd₁).andThen <| (Worked.write hlog hd₂).andThen <|
      (Worked.write hscript hd₃).andThen <| (Host.Within.worked_touchLog hlog run d).andThen <|
        Host.Within.worked_without hscript _ _
  refine hwork.onlyNew ?_
  rintro p l c denial rfl hl
  rw [hremove] at hl ⊢
  exact get?_without hslash hl c denial

/-- A script that cannot be written uses up its name and leaves the disk as it was. -/
theorem disk_of_fails_writeScript {e : Failure} (hf : Fails (writeScript target log args) h e h') : h'.disk = h.disk := by
  have hname : Gives (liftM Host.tempName) h (Text.padded 8 (h.named + 1)) { h with named := h.named + 1 } := rfl
  rcases fails_bind.mp hf with hf | ⟨name, h₁, hn, hf⟩
  · exact absurd hf hname.not_fails
  cases hname.symm.trans hn
  rcases fails_bind.mp hf with hf | ⟨_, h₂, -, hf⟩
  · obtain ⟨_, -, -, rfl⟩ := fails_onDisk.mp hf
    rfl
  · cases hf

/-- A run that fails has worked on the log only, or the child process could not be started and the script was removed. -/
theorem fails_run {log : Option String} {e : Failure} (hf : Fails (run target args timeout log) h e h') :
    Worked (logScope (log.getD (defaultLog h.now)) fun _ => False) h.disk h'.disk ∨
    ∃ d, preparedFor (log.getD (defaultLog h.now)) h target args timeout = .ok d ∧
      h'.disk = without h.canRemove (nextScript h) (touchLog (h.runs h.started) (log.getD (defaultLog h.now)) d) := by
  generalize hpath : log.getD (defaultLog h.now) = path
  have hlog : (logScope path fun _ => False).files path := .inl rfl
  rcases fails_bind.mp hf with hget | ⟨g, h₁, hget, hf⟩
  · cases hget
  obtain ⟨rfl, rfl⟩ := gives_get.mp hget
  dsimp only at hf
  rw [hpath] at hf
  rcases fails_bind.mp hf with hdirs | ⟨_, h₂, hdirs, hf⟩
  · obtain ⟨_, -, -, rfl⟩ := fails_onDisk.mp hdirs
    exact .inl .idle
  obtain ⟨d₁, hd₁, rfl⟩ := gives_onDisk.mp hdirs
  have hmade : Worked (logScope path fun _ => False) h.disk d₁ := .makeDirs (fun _ _ => trivial) hd₁
  rcases fails_bind.mp hf with hwrite | ⟨_, h₃, hwrite, hf⟩
  · obtain ⟨_, -, -, rfl⟩ := fails_onDisk.mp hwrite
    exact .inl hmade
  obtain ⟨d₂, hd₂, rfl⟩ := gives_onDisk.mp hwrite
  have hwritten := hmade.andThen (.write hlog hd₂)
  rcases fails_bind.mp hf with hscript | ⟨_, h₄, hscript, hf⟩
  · left
    rw [disk_of_fails_writeScript hscript]
    exact hwritten
  obtain ⟨rfl, d, hd, rfl⟩ := gives_writeScript.mp hscript
  right
  refine ⟨d, preparedFor_eq_ok.mpr ⟨d₁, d₂, hd₁, hd₂, hd⟩, ?_⟩
  rcases fails_bind.mp hf with hchild | ⟨result, h₅, hchild, hf⟩
  · exact absurd hchild not_fails_always
  rcases fails_bind.mp hf with hclean | ⟨_, h₆, hclean, hf⟩
  · exact absurd hclean not_fails_always
  obtain ⟨_, -, -, rfl⟩ := fails_check.mp hf
  have hhost : h₅ = afterChild path _ := congrArg Prod.snd ((gives_always.mp hchild).symm.trans (outcome_runChild path timeout _))
  have hlast : (Host.after (cleanUp (nextScript h)) h₅).2 = h₆ := congrArg Prod.snd (gives_always.mp hclean)
  rw [← hlast, after_cleanUp, hhost, afterChild]

/-! ## The result of a run -/

theorem timedOut_childResult (log : String) (timeout : Value) (h : Host) :
    (childResult log timeout h).timedOut = (h.runs h.started).timedOut := by
  unfold childResult
  dsimp only
  split
  · next ht => rw [ht]
  · next ht => rw [Bool.eq_false_iff.mpr ht]

theorem code_childResult (log : String) (timeout : Value) (h : Host) :
    (childResult log timeout h).code = if (h.runs h.started).timedOut then -1 else (h.runs h.started).code := by
  unfold childResult
  dsimp only
  split <;> rfl

theorem logEntries_childResult (log : String) (timeout : Value) (h : Host) :
    (childResult log timeout h).logEntries = readLog (touchLog (h.runs h.started) log h.disk) log := by
  unfold childResult
  dsimp only
  split <;> rfl

theorem readLog_of_missing (hmissing : d.entry? log = none) :
    ∃ reason, readLog d log = ["[ERROR] Failed to read log file: " ++ reason ++ "\n"] := by
  obtain ⟨e, he⟩ := Disk.exists_error_of_missing hmissing
  refine ⟨e.message, ?_⟩
  rw [readLog, he]

theorem entry?_touchLog {run : ChildRun} (hd : preparedFor log h target args timeout = .ok d) (hdrops : run.dropsLog = true) :
    Disk.entry? (touchLog run log d) log = none := by
  obtain ⟨d₁, d₂, -, hd₂, hd₃⟩ := preparedFor_eq_ok.mp hd
  obtain ⟨c, hread⟩ := Disk.exists_read_of_write (Disk.read_write hd₂) hd₃
  have happend : ∃ c, ((d.append log (String.join (run.log.map (· ++ "\n")))).toOption.getD d).read log = .ok c := by
    cases happend : d.append log (String.join (run.log.map (· ++ "\n"))) with
    | ok d' =>
      rw [Disk.append, Disk.entry?_of_read hread] at happend
      exact ⟨_, Disk.read_write happend⟩
    | error e => exact ⟨c, hread⟩
  obtain ⟨c', hread'⟩ := happend
  obtain ⟨d', hd'⟩ := Disk.exists_remove_of_read hread'
  rw [touchLog_eq]
  dsimp only
  rw [if_pos hdrops, hd']
  exact Disk.entry?_of_remove hd'

end Run

namespace HangingChild

def child : ChildRun := ⟨0, "", "", ["[INFO] started"], true, none, true, .ofRatio false 0 1⟩

def host : Host := bareHost fun _ => child

theorem prepared_host : ∃ d, preparedFor "/s.log" host "a.py" [] (.int 5) = .ok d := by
  have hok : (preparedFor "/s.log" host "a.py" [] (.int 5)).isOk = true := by decide +kernel
  cases hd : preparedFor "/s.log" host "a.py" [] (.int 5) with
  | ok d => exact ⟨d, rfl⟩
  | error e =>
    rw [hd] at hok
    cases hok

end HangingChild

end Sandbox
end ThreatScan
