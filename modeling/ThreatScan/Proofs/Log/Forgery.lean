import ThreatScan.Proofs.Log.HookLog
/-!
Forged network activity.

Hooks copy the arguments of calls to the log as they are, and the reader looks for network activity everywhere in a line. So
a program can forge it: a command or a path that holds an entry is read as a connection (`HookCall.forges_of_givesEntry`).
Two runs with the same connections are read alike if neither forges any (`ofStored_eq_of_unforged`). A run that does is read
with more activities than one that does not (`length_le_of_alike`), so that the activities are the same exactly if it does
not (`activities_eq_iff_unforged`).
-/
namespace ThreatScan.Hook

open NetworkLog (Mentions ofStored)
open Text (OneLine)

/-- Calls at the same moment of the same function, and the same call if it opens a connection. -/
def Alike (c c' : HookCall) : Prop := c.moment = c'.moment ∧ c.place = c'.place ∧ (c.place = .connect → c = c')

namespace HookCall

/-- The call opens no connection, but leaves an entry that is read as network activity. -/
def Forges (c : HookCall) (o : Outcome) : Prop := c.place ≠ .connect ∧ ∃ e ∈ c.entries o, e.Poses

/-- The call is given a command or a path with an entry of network activity in it. -/
def GivesEntry (c : HookCall) : Prop :=
  c.place ∈ [.system, .popen, .openFile, .openDescriptor] ∧ (c.place.complete c.call).isSome = true ∧
    ∃ s rest x, c.call.args = .str s :: rest ∧ OneLine x ∧ Mentions x ∧ x <:+: s.toList

end HookCall

def Watch.Unforged (w : Watch) (n : Nat) (calls : List HookCall) : Prop := ∀ c ∈ calls, ¬ c.Forges (w.outcome n c)

/-! ## Arguments that forge -/

/-- The first argument given by position is the first of the completed call. -/
theorem arg_of_complete {p : Place} {c call : Call} (hp : p ≠ .call ∧ p ≠ .run ∧ p ≠ .spawn)
    (h : p.complete c = some call) {v : Value} {rest : List Value} (hargs : c.args = v :: rest) :
    Place.arg call 0 = v := by
  obtain ⟨name, default, ps, namedOnly, hsignature⟩ :
      ∃ name default ps namedOnly, p.signature = .fixed ((name, default) :: ps) namedOnly := by
    cases p with
    | system => exact ⟨_, _, _, _, rfl⟩
    | popen => exact ⟨_, _, _, _, rfl⟩
    | connect => exact ⟨_, _, _, _, rfl⟩
    | call => exact absurd rfl hp.1
    | run => exact absurd rfl hp.2.1
    | spawn => exact absurd rfl hp.2.2
    | openFile => exact ⟨_, _, _, _, rfl⟩
    | openDescriptor => exact ⟨_, _, _, _, rfl⟩
  unfold Place.complete at h
  rw [hsignature] at h
  dsimp only at h
  split at h
  · obtain ⟨args, hbound, h⟩ := Option.bind_eq_some_iff.mp h
    obtain ⟨_, -, h⟩ := Option.bind_eq_some_iff.mp h
    rw [hargs, bindArgs] at hbound
    split at hbound
    · cases hbound
    · obtain ⟨more, -, rfl⟩ := Option.map_eq_some_iff.mp hbound
      cases h
      rfl
  · cases h

theorem infix_alert {p : Place} (hp : p ∈ [Place.system, .popen, .openFile, .openDescriptor]) {call : Call} {s : String}
    (h : Place.arg call 0 = .str s) : ∃ text, p.alert call = .ok text ∧ s.toList <:+: text.toList := by
  have hmid : ∀ head tail : String, s.toList <:+: (head ++ s ++ tail).toList := fun head tail =>
    ⟨head.toList, tail.toList, by rw [String.toList_append, String.toList_append]⟩
  have hdisplay : (Place.arg call 0).display = s := by rw [h]; rfl
  simp only [List.mem_cons, List.not_mem_nil, or_false] at hp
  rcases hp with rfl | rfl | rfl | rfl
  · refine ⟨_, rfl, ?_⟩
    rw [hdisplay]
    exact hmid _ _
  · refine ⟨_, rfl, ?_⟩
    rw [hdisplay, String.append_assoc, String.append_assoc]
    exact hmid _ _
  · refine ⟨_, rfl, ?_⟩
    rw [hdisplay, String.append_assoc, String.append_assoc]
    exact hmid _ _
  · refine ⟨_, rfl, ?_⟩
    rw [hdisplay, String.append_assoc, String.append_assoc, String.append_assoc]
    exact hmid _ _

theorem HookCall.forges_of_givesEntry {c : HookCall} (h : c.GivesEntry) (o : Outcome) : c.Forges o := by
  obtain ⟨hplace, hfits, s, rest, x, hargs, hline, hmentions, hx⟩ := h
  have hother : c.place ≠ .connect ∧ c.place ≠ .call ∧ c.place ≠ .run ∧ c.place ≠ .spawn := by
    simp only [List.mem_cons, List.not_mem_nil, or_false] at hplace
    rcases hplace with h | h | h | h <;> rw [h] <;> decide
  obtain ⟨call, hcall⟩ := Option.isSome_iff_exists.mp hfits
  obtain ⟨text, htext, hholds⟩ := infix_alert hplace (arg_of_complete hother.2 hcall hargs)
  let message := "[ALERT] " ++ text ++ " | stack=" ++ c.moment.stack
  have hmessage : message ∈ c.messages o := by
    unfold HookCall.messages HookCall.alert
    rw [hcall]
    dsimp only
    rw [htext]
    exact List.mem_cons_self
  have hwhole : text.toList <:+: (LogEntry.text ⟨c.moment.now, message⟩).toList := by
    refine ⟨("[" ++ c.moment.now.logText ++ "] " ++ "[ALERT] ").toList,
      (" | stack=" ++ c.moment.stack ++ "\n").toList, ?_⟩
    simp only [LogEntry.text, message, String.toList_append, List.append_assoc]
  exact ⟨hother.1, _, List.mem_map.mpr ⟨message, hmessage, rfl⟩,
    LogEntry.poses_iff.mpr ⟨x, hline, hmentions, (hx.trans hholds).trans hwhole⟩⟩

theorem HookCall.infix_of_forges {c : HookCall} {o : Outcome} (h : c.Forges o) :
    ∃ message ∈ c.messages o, "NETWORK:".toList <:+: message.toList := by
  obtain ⟨-, e, he, hposes⟩ := h
  obtain ⟨message, hmessage, rfl⟩ := List.mem_map.mp he
  exact ⟨message, hmessage, hposes.isInfix⟩

/-! ## Two runs -/

section Runs
variable {w : Watch} {n : Nat} {calls others : List HookCall}

/-- What the log says of a call that forges nothing, unless it opens a connection. -/
theorem ofStored_of_not_forges {c : HookCall} {o : Outcome} (hc : c.place ≠ .connect) :
    ofStored (logText (c.entries o)) = .ok [] ↔ ¬ c.Forges o := by
  rw [ofStored_logText_eq_nil]
  simp [HookCall.Forges, hc]

theorem Watch.unforged_cons {c : HookCall} :
    w.Unforged n (c :: calls) ↔ ¬ c.Forges (w.outcome n c) ∧ w.Unforged n calls := List.forall_mem_cons

/-- Runs that forge nothing are read alike, faults included. -/
theorem ofStored_eq_of_unforged (h : List.Forall₂ Alike calls others) (hc : w.Unforged n calls)
    (ho : w.Unforged n others) :
    ofStored (logText (calls.flatMap fun c => c.entries (w.outcome n c))) =
      ofStored (logText (others.flatMap fun c => c.entries (w.outcome n c))) := by
  induction h with
  | nil => rfl
  | @cons c c' calls others halike _ ih =>
    obtain ⟨hc, hcs⟩ := Watch.unforged_cons.mp hc
    obtain ⟨ho, hos⟩ := Watch.unforged_cons.mp ho
    rw [List.flatMap_cons, List.flatMap_cons, ofStored_logText_append, ofStored_logText_append, ih hcs hos]
    by_cases hplace : c.place = .connect
    · rw [halike.2.2 hplace]
    · rw [(ofStored_of_not_forges hplace).mpr hc, (ofStored_of_not_forges (halike.2.1 ▸ hplace)).mpr ho]

/-- The run with forged activity is read with more of it. -/
theorem length_le_of_alike (h : List.Forall₂ Alike calls others) (ho : w.Unforged n others)
    {as bs : List NetworkActivity} (has : ofStored (logText (calls.flatMap fun c => c.entries (w.outcome n c))) = .ok as)
    (hbs : ofStored (logText (others.flatMap fun c => c.entries (w.outcome n c))) = .ok bs) :
    bs.length ≤ as.length ∧ (as.length ≤ bs.length → w.Unforged n calls) := by
  induction h generalizing as bs with
  | nil =>
    rw [Except.ok.inj (has.symm.trans hbs)]
    exact ⟨Nat.le_refl _, fun _ c hc => absurd hc List.not_mem_nil⟩
  | @cons c c' calls others halike _ ih =>
    obtain ⟨ho, hos⟩ := Watch.unforged_cons.mp ho
    rw [List.flatMap_cons, ofStored_logText_append] at has hbs
    obtain ⟨as₁, hfirst, has⟩ := Checked.bind_eq_ok.mp has
    obtain ⟨as₂, hrest, has⟩ := Checked.bind_eq_ok.mp has
    obtain ⟨bs₁, hfirst', hbs⟩ := Checked.bind_eq_ok.mp hbs
    obtain ⟨bs₂, hrest', hbs⟩ := Checked.bind_eq_ok.mp hbs
    obtain ⟨hle, hunforged⟩ := ih hos hrest hrest'
    cases has
    cases hbs
    rw [List.length_append, List.length_append, Watch.unforged_cons]
    by_cases hplace : c.place = .connect
    · -- the same connection is read from both
      rw [← halike.2.2 hplace, hfirst] at hfirst'
      cases hfirst'
      exact ⟨Nat.add_le_add_left hle _, fun hlen => ⟨fun hf => hf.1 hplace, hunforged (Nat.le_of_add_le_add_left hlen)⟩⟩
    · rw [(ofStored_of_not_forges (halike.2.1 ▸ hplace)).mpr ho] at hfirst'
      cases hfirst'
      refine ⟨by simp; omega, fun hlen => ?_⟩
      have hzero : as₁ = [] := List.eq_nil_of_length_eq_zero (by simp at hlen; omega)
      rw [hzero] at hfirst hlen
      exact ⟨(ofStored_of_not_forges hplace).mp hfirst, hunforged (by simpa using hlen)⟩

end Runs

/-- The log of calls that were made after what stands in the log already. -/
theorem Watch.read_calls {w : Watch} {n : Nat} {destination : Destination} (h : w.Alone n destination)
    {before : List LogEntry} (hl : w.LogHolds (logText before) destination) {calls : List HookCall} {d : Disk}
    {path : String} (hd : (w.after n (calls.map Step.call)).IsLog d path destination) :
    NetworkLog.read d path = do
      return (← ofStored (logText before)) ++
        (← ofStored (logText (calls.flatMap fun c => c.entries (w.outcome n c)))) := by
  rw [Watch.read_log (Watch.logHolds_after h hl (calls.map Step.call)) hd, ← logText_append, ofStored_logText_append,
    entries_calls h]

/-- Two runs make the same connections and differ in their other calls, and one of them forges nothing. Then the same
activities are read from both exactly if the other forges nothing either. It does not if the word NETWORK is in none of its
messages, and it does if one command or path holds an entry. -/
theorem activities_eq_iff_unforged {w : Watch} {n : Nat} {destination : Destination} (h : w.Alone n destination)
    {before : List LogEntry} (hl : w.LogHolds (logText before) destination) {calls others : List HookCall}
    (halike : List.Forall₂ Alike calls others) (ho : w.Unforged n others) {d d' : Disk} {path path' : String}
    (hd : (w.after n (calls.map Step.call)).IsLog d path destination)
    (hd' : (w.after n (others.map Step.call)).IsLog d' path' destination) :
    (w.Unforged n calls → NetworkLog.read d path = NetworkLog.read d' path') ∧
    (∀ as, NetworkLog.read d' path' = .ok as → (NetworkLog.read d path = .ok as ↔ w.Unforged n calls)) ∧
    ((∀ c ∈ calls, c.place ≠ .connect → ∀ message ∈ c.messages (w.outcome n c), ¬ "NETWORK:".toList <:+: message.toList) →
      w.Unforged n calls) ∧
    ((∃ c ∈ calls, c.GivesEntry) → ¬ w.Unforged n calls) := by
  have hsame : w.Unforged n calls → NetworkLog.read d path = NetworkLog.read d' path' := by
    intro hc
    rw [Watch.read_calls h hl hd, Watch.read_calls h hl hd', ofStored_eq_of_unforged halike hc ho]
  refine ⟨hsame, fun as has => ⟨fun hread => ?_, fun hc => (hsame hc).trans has⟩, fun hwords c hc hforges => ?_, ?_⟩
  · rw [Watch.read_calls h hl hd] at hread
    rw [Watch.read_calls h hl hd'] at has
    obtain ⟨xs, hxs, hread⟩ := Checked.bind_eq_ok.mp hread
    obtain ⟨as₁, hcalls, hread⟩ := Checked.bind_eq_ok.mp hread
    rw [hxs, Checked.ok_bind] at has
    obtain ⟨bs₁, hothers, has⟩ := Checked.bind_eq_ok.mp has
    have heq : xs ++ as₁ = xs ++ bs₁ := (Checked.pure_eq_ok.mp hread).trans (Checked.pure_eq_ok.mp has).symm
    rw [List.append_cancel_left heq] at hcalls
    exact (length_le_of_alike halike ho hcalls hothers).2 (Nat.le_refl _)
  · obtain ⟨message, hmessage, hword⟩ := HookCall.infix_of_forges hforges
    exact hwords c hc hforges.1 message hmessage hword
  · rintro ⟨c, hc, hgives⟩ hunforged
    exact hunforged c hc (HookCall.forges_of_givesEntry hgives _)

namespace ForgedCommand

def moment : Moment := ⟨⟨2024, 1, 2, 3, 4, 5, 678000⟩, "a.py:7"⟩

def watch : Watch := (Watch.single .empty .output).install moment 0

def before : List LogEntry := [⟨moment.now, "[INFO] Hooks installed successfully"⟩]

def command (text : String) : HookCall := ⟨moment, .system, ⟨[.str text], []⟩, .result (.int 0)⟩

def log (text : String) : Disk := .withLog (watch.after 0 ([command text].map Step.call)).output

def entry : String := "[x] [ALERT] NETWORK: socket.connect called with address='1.2.3.4:80'"

/-- A command with a comment that looks like an entry of the log. -/
def forged : String := "ls # " ++ entry

theorem watch_spec : watch.Alone 0 .output ∧ watch.LogHolds (logText before) .output := by
  have hempty : (Watch.single .empty .output).LogHolds "" .output := rfl
  have hinstall := Watch.install_spec (Watch.alone_single .empty .output) hempty moment
  rw [String.empty_append] at hinstall
  exact hinstall

theorem isLog (text : String) : (watch.after 0 ([command text].map Step.call)).IsLog (log text) "run.log" .output :=
  Disk.read_withLog _

theorem alike (text text' : String) : List.Forall₂ Alike [command text] [command text'] :=
  .cons ⟨rfl, rfl, fun h => (by cases h)⟩ .nil

theorem not_forges (text : String) (h : 'W' ∉ text.toList) :
    ¬ (command text).Forges (watch.outcome 0 (command text)) := by
  intro hforges
  obtain ⟨message, hmessage, hword⟩ := HookCall.infix_of_forges hforges
  have hshape : message =
      "[ALERT] " ++ ("SYSCALL: os.system called with command='" ++ text ++ "'") ++ " | stack=" ++ "a.py:7" :=
    List.mem_singleton.mp hmessage
  have hmem : 'W' ∈ message.toList := hword.subset (by decide)
  rw [hshape] at hmem
  simp only [String.toList_append, List.mem_append] at hmem
  rcases hmem with ((hw | (hw | hw) | hw) | hw) | hw
  · exact absurd hw (by decide)
  · exact absurd hw (by decide)
  · exact h hw
  · exact absurd hw (by decide)
  · exact absurd hw (by decide)
  · exact absurd hw (by decide)

theorem read_command (text : String) : NetworkLog.read (log text) "run.log" =
    ofStored (logText ((command text).entries (watch.outcome 0 (command text)))) := by
  have hbefore : ofStored (logText before) = .ok [] := by
    rw [ofStored_logText_eq_nil]
    intro e he hposes
    rw [List.mem_singleton.mp he] at hposes
    exact absurd (hposes.isInfix.subset (show 'W' ∈ _ by decide)) (by decide)
  rw [Watch.read_calls watch_spec.1 watch_spec.2 (isLog text), List.flatMap_singleton, hbefore, Checked.ok_bind]
  cases ofStored (logText ((command text).entries (watch.outcome 0 (command text)))) <;> rfl

theorem mentions_entry : Mentions entry.toList := by
  have hquotes : "1.2.3.4:80".toList.all (!NetworkLog.isQuote ·) = true := by decide
  have hquotable : ∀ c ∈ "1.2.3.4:80".toList, NetworkLog.isQuote c = false := by
    intro c hc
    simpa using List.all_eq_true.mp hquotes c hc
  have hparts : entry.toList = "[".toList ++ (['x'] ++ ("]".toList ++ ([' '] ++
      ("[ALERT] NETWORK: socket.connect called with address='".toList ++ ("1.2.3.4:80".toList ++ ['\'']))))) := by
    decide
  exact ⟨entry.toList, ['x'], "connect", "1.2.3.4:80".toList, List.suffix_refl _, ⟨by decide, by decide⟩, [' '], _,
    Text.isGap_space, NetworkLog.isMessage_connect ⟨by decide, hquotable⟩ [], hparts⟩

theorem givesEntry_forged : (command forged).GivesEntry :=
  ⟨by decide, rfl, forged, [], entry.toList, rfl, by decide, mentions_entry,
    List.IsSuffix.isInfix ⟨"ls # ".toList, String.toList_append.symm⟩⟩

theorem commands_read_alike :
    NetworkLog.read (log "cat a.txt | sort") "run.log" = NetworkLog.read (log "ls") "run.log" := by
  obtain ⟨halone, hlog⟩ := watch_spec
  have hunforged : ∀ text, 'W' ∉ text.toList → watch.Unforged 0 [command text] := fun text h c hc =>
    List.mem_singleton.mp hc ▸ not_forges text h
  exact (activities_eq_iff_unforged halone hlog (alike "cat a.txt | sort" "ls") (hunforged "ls" (by decide))
    (isLog _) (isLog _)).1 (hunforged _ (by decide))

/-- Two runs of one command that differ in its text only: nothing is connected, but activity is read from one of them. -/
theorem forged_command_read_as_connection :
    NetworkLog.read (log "ls") "run.log" = .ok [] ∧ NetworkLog.read (log forged) "run.log" ≠ .ok [] := by
  rw [read_command, read_command]
  refine ⟨(ofStored_of_not_forges (by decide)).mpr (not_forges "ls" (by decide)), fun hread => ?_⟩
  exact (ofStored_of_not_forges (by decide)).mp hread (HookCall.forges_of_givesEntry givesEntry_forged _)

end ForgedCommand

end ThreatScan.Hook
