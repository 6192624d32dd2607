import ThreatScan.Proofs.Log.HookLog
import ThreatScan.Proofs.Log.Summary
/-!
Connections are read back from the log.

A process connects through the hook of a monitor, and the monitor may be installed and removed in between
(`NetworkStep`). If hosts are made of the usual characters, call stacks stand on one line and every connection is made, then
the log is read as exactly these connections in order, each with its target, its time and its line, and their summary counts
them and lists their targets in order (`connections_read_back`).
-/
namespace ThreatScan

open Text (OneLine)

/-! ## The entry of a connection -/

namespace NetworkLog

/-- An address that does not start with a parenthesis stands as it is. -/
theorem ofText_address {s : List Char} (h : s.head? ≠ some '(') : Address.ofText s = .ok (.text (String.ofList s)) := by
  have hpair : Address.pair? s = none := by
    unfold Address.pair?
    have hno : Text.literal? "(" s = none := by
      cases hl : Text.literal? "(" s with
      | none => rfl
      | some rest => exact absurd (by rw [Text.literal?_eq_some.mp hl]; rfl) h
    rw [hno]
    rfl
  simp only [Address.ofText, hpair]

end NetworkLog

namespace Hook

open NetworkLog (ofStored)

def isHostChar (c : Char) : Bool := Text.isAlphanumeric c || ['.', '-', ':', '%', '_'].contains c

def connectMessage (host : String) (port : Nat) (stack : String) : String :=
  "[ALERT] NETWORK: socket.connect called with address='" ++ (host ++ ":" ++ toString port) ++ "' | stack=" ++ stack

/-- What is done with a monitor while connections are made through its hook. -/
inductive NetworkStep where
  | install (m : Moment)
  | uninstall (m : Moment)
  | connect (m : Moment) (socket : Value) (host : String) (port : Nat) (answer : Outcome)

namespace NetworkStep

def toStep : NetworkStep → Step
  | .install m => .install m
  | .uninstall m => .uninstall m
  | .connect m socket host port answer =>
    .call ⟨m, .connect, ⟨[socket, .tuple [.str host, .int port]], []⟩, answer⟩

/-- The host is made of the usual characters, and the call stack is one line. -/
def Regular : NetworkStep → Prop
  | .connect m _ host _ _ => (∀ c ∈ host.toList, isHostChar c = true) ∧ OneLine m.stack.toList
  | _ => True

def activity? : NetworkStep → Option NetworkActivity
  | .connect m _ host port _ => some
    { kind := "connect"
      timestamp := m.now.logText
      line := Text.trim ("[" ++ m.now.logText ++ "] " ++ connectMessage host port m.stack)
      address := .text (host ++ ":" ++ toString port) }
  | _ => none

end NetworkStep

section Connect
variable {host : String} (hhost : ∀ c ∈ host.toList, isHostChar c = true) (port : Nat)
include hhost

theorem not_mem_address {x : Char} (hx : isHostChar x = false) (hd : x.isDigit = false) :
    x ∉ (host ++ ":" ++ toString port).toList := by
  intro h
  simp only [String.toList_append, List.mem_append, or_assoc] at h
  rcases h with h | h | h
  · rw [hhost x h] at hx
    cases hx
  · rw [List.mem_singleton.mp h] at hx
    cases hx
  · rw [Nat.toString_eq_ofList_toDigits, String.toList_ofList] at h
    rw [Nat.isDigit_of_mem_toDigits (by decide) (by decide) h] at hd
    cases hd

theorem address_quotable : (host ++ ":" ++ toString port).toList ≠ [] ∧
    ∀ c ∈ (host ++ ":" ++ toString port).toList, NetworkLog.isQuote c = false := by
  refine ⟨by simp, fun c hc => ?_⟩
  unfold NetworkLog.isQuote
  rw [Bool.or_eq_false_iff, beq_eq_false_iff_ne, beq_eq_false_iff_ne]
  constructor
  · rintro rfl
    exact not_mem_address hhost port (by decide) (by decide) hc
  · rintro rfl
    exact not_mem_address hhost port (by decide) (by decide) hc

theorem oneLine_connectMessage {stack : String} (hstack : OneLine stack.toList) :
    OneLine (connectMessage host port stack).toList := by
  have hhead : OneLine "[ALERT] NETWORK: socket.connect called with address='".toList := by decide
  have haddress : OneLine (host ++ ":" ++ toString port).toList :=
    ⟨not_mem_address hhost port (by decide) (by decide), not_mem_address hhost port (by decide) (by decide)⟩
  have htail : OneLine "' | stack=".toList := by decide
  unfold connectMessage
  rw [String.toList_append, String.toList_append, String.toList_append]
  exact ((hhead.append haddress).append htail).append hstack

theorem isEntry_connect (now : Instant) (stack : String) :
    NetworkLog.IsEntry now.logText.toList "connect" (host ++ ":" ++ toString port).toList
      (LogEntry.body ⟨now, connectMessage host port stack⟩) := by
  have hmessage : (connectMessage host port stack).toList =
      "[ALERT] NETWORK: socket.connect called with address='".toList ++ ((host ++ ":" ++ toString port).toList ++
        '\'' :: (" | stack=".toList ++ stack.toList)) := by
    unfold connectMessage
    rw [String.toList_append, String.toList_append, String.toList_append, List.append_assoc, List.append_assoc]
    rfl
  have hgap : "] ".toList = "]".toList ++ [' '] := by decide
  refine ⟨⟨Instant.logText_ne_nil, Instant.not_mem_logText (by decide)⟩, [' '], _, Text.isGap_space,
    NetworkLog.isMessage_connect (address_quotable hhost port) (" | stack=".toList ++ stack.toList), ?_⟩
  rw [LogEntry.body, Instant.stamped, hmessage, hgap, List.append_assoc]

theorem ofStored_connect {m : Moment} (hstack : OneLine m.stack.toList) (socket : Value) (answer : Outcome) :
    ofStored (LogEntry.text ⟨m.now, connectMessage host port m.stack⟩) =
      .ok (NetworkStep.connect m socket host port answer).activity?.toList := by
  have haddress : Address.ofText (host ++ ":" ++ toString port).toList = .ok (.text (host ++ ":" ++ toString port)) := by
    rw [NetworkLog.ofText_address, String.ofList_toList]
    intro hopen
    exact not_mem_address hhost port (by decide) (by decide) (List.mem_of_mem_head? hopen)
  rw [LogEntry.ofStored_text (e := ⟨m.now, connectMessage host port m.stack⟩) (oneLine_connectMessage hhost port hstack)
    (isEntry_connect hhost port m.now m.stack) haddress, LogEntry.ofList_body, String.ofList_toList]
  rfl

end Connect

/-! ## Steps -/

section Steps
variable {w : Watch} {n : Nat} {destination : Destination}

theorem ofStored_quiet (now : Instant) {message : String} (h : 'W' ∉ message.toList) :
    ofStored (logText [⟨now, message⟩]) = .ok [] := by
  have hposes : ¬ LogEntry.Poses ⟨now, message⟩ := fun hp => h (hp.isInfix.subset (by decide))
  rw [ofStored_logText_cons, LogEntry.ofStored_text_eq_nil.mpr hposes]
  rfl

theorem messages_connect (m : Moment) (socket : Value) (host : String) (port : Nat) (answer : Outcome) (v : Value) :
    HookCall.messages ⟨m, .connect, ⟨[socket, .tuple [.str host, .int port]], []⟩, answer⟩ (.result v) =
      [connectMessage host port m.stack] := by
  have halert : HookCall.alert ⟨m, .connect, ⟨[socket, .tuple [.str host, .int port]], []⟩, answer⟩ =
      .ok ("NETWORK: socket.connect called with address='" ++ (host ++ ":" ++ toString port) ++ "'") := rfl
  have hhead : "[ALERT] " ++ "NETWORK: socket.connect called with address='" =
      "[ALERT] NETWORK: socket.connect called with address='" := by decide
  have htail : "' | stack=" = "'" ++ " | stack=" := by decide
  unfold HookCall.messages connectMessage
  rw [halert, ← hhead, htail]
  simp only [String.append_assoc]

theorem ofStored_said (h : w.Alone n destination) {s : NetworkStep} (hs : s.Regular)
    (ho : ∀ o ∈ (w.step n s.toStep).1, ∃ v, o = .result v) :
    ofStored (logText ((w.said n s.toStep).map fun message => ⟨s.toStep.moment.now, message⟩)) =
      .ok s.activity?.toList := by
  cases s with
  | install m =>
    simp only [NetworkStep.toStep, Watch.said]
    split
    · exact ofStored_quiet m.now (by decide)
    · rfl
  | uninstall m =>
    simp only [NetworkStep.toStep, Watch.said]
    split
    · exact ofStored_quiet m.now (by decide)
    · rfl
  | connect m socket host port answer =>
    let c : HookCall := ⟨m, .connect, ⟨[socket, .tuple [.str host, .int port]], []⟩, answer⟩
    obtain ⟨v, hv⟩ : ∃ v, w.outcome n c = .result v := ho _ (congrArg some (congrArg Prod.fst (Watch.callHook_eq h c)))
    have hsaid : w.said n (NetworkStep.connect m socket host port answer).toStep = [connectMessage host port m.stack] := by
      rw [← messages_connect m socket host port answer v, ← hv]
      rfl
    have hmoment : (NetworkStep.connect m socket host port answer).toStep.moment = m := rfl
    rw [hsaid, hmoment, List.map_singleton, ofStored_logText_cons, ofStored_connect hs.1 port hs.2 socket answer]
    rfl

theorem ofStored_entries (h : w.Alone n destination) {text : String} (hl : w.LogHolds text destination)
    {steps : List NetworkStep} (hs : ∀ s ∈ steps, s.Regular)
    (ho : ∀ o ∈ w.outcomes n (steps.map NetworkStep.toStep), ∃ v, o = .result v) :
    ofStored (logText (w.entries n (steps.map NetworkStep.toStep))) = .ok (steps.filterMap NetworkStep.activity?) := by
  induction steps generalizing w text with
  | nil => rfl
  | cons s rest ih =>
    obtain ⟨halone, hlog⟩ := Watch.step_spec h hl s.toStep
    rw [List.map_cons, Watch.outcomes] at ho
    have hfirst := ofStored_said h (hs s List.mem_cons_self) fun o hmem =>
      ho o (List.mem_append_left _ (Option.mem_toList.mpr hmem))
    have hrest := ih halone hlog (fun t ht => hs t (List.mem_cons_of_mem s ht)) fun o hmem =>
      ho o (List.mem_append_right _ hmem)
    rw [List.map_cons, Watch.entries, ofStored_logText_append, hfirst, hrest, List.filterMap_cons]
    cases s.activity? <;> rfl

end Steps

/-- Connections that are made through a hook are read back from the log, each once and in order, and their summary counts
them. -/
theorem connections_read_back {w : Watch} {n : Nat} {destination : Destination} (h : w.Alone n destination)
    (hl : w.LogHolds "" destination) {steps : List NetworkStep} (hs : ∀ s ∈ steps, s.Regular)
    (ho : ∀ o ∈ w.outcomes n (steps.map NetworkStep.toStep), ∃ v, o = .result v) {d : Disk} {path : String}
    (hd : (w.after n (steps.map NetworkStep.toStep)).IsLog d path destination) :
    NetworkLog.read d path = .ok (steps.filterMap NetworkStep.activity?) ∧
    ∃ (summary : NetworkSummary) (targets : List String),
      NetworkSummary.ofActivities (.list ((steps.filterMap NetworkStep.activity?).map (·.toValue))) = .ok summary ∧
      summary.total = (steps.filterMap NetworkStep.activity?).length ∧ summary.connects = summary.total ∧
      summary.binds = 0 ∧ summary.targets = targets.map .str ∧ targets.Pairwise (· < ·) ∧
      ∀ t, t ∈ targets ↔ ∃ m socket host port answer, .connect m socket host port answer ∈ steps ∧
        t = host ++ ":" ++ toString port := by
  have hread := Watch.read_log (Watch.logHolds_after h hl (steps.map NetworkStep.toStep)) hd
  rw [String.empty_append, ofStored_entries h hl hs ho] at hread
  obtain ⟨summary, targets, hsummary, hcounts, hsorted⟩ :=
    NetworkSummary.exists_ofActivities (steps.filterMap NetworkStep.activity?)
  have hkind : ∀ a ∈ steps.filterMap NetworkStep.activity?, a.kind = "connect" := by
    intro a ha
    obtain ⟨s, -, hs⟩ := List.mem_filterMap.mp ha
    cases s with
    | install m => cases hs
    | uninstall m => cases hs
    | connect m socket host port answer =>
      cases hs
      rfl
  refine ⟨hread, summary, targets, hsummary, hcounts.total, ?_, ?_, hcounts.targets_eq, hsorted, fun t => ?_⟩
  · rw [hcounts.connects, hcounts.total, List.countP_eq_length]
    exact fun a ha => beq_iff_eq.mpr (hkind a ha)
  · rw [hcounts.binds, List.countP_eq_zero]
    intro a ha
    rw [hkind a ha]
    decide
  · rw [hcounts.mem_targets]
    constructor
    · rintro ⟨a, ha, rfl⟩
      obtain ⟨s, hmem, hs⟩ := List.mem_filterMap.mp ha
      cases s with
      | install m => cases hs
      | uninstall m => cases hs
      | connect m socket host port answer =>
        cases hs
        exact ⟨m, socket, host, port, answer, hmem, rfl⟩
    · rintro ⟨m, socket, host, port, answer, hmem, rfl⟩
      exact ⟨_, List.mem_filterMap.mpr ⟨_, hmem, rfl⟩, rfl⟩

def twoConnections : List NetworkStep :=
  let m : Moment := ⟨⟨2024, 1, 2, 3, 4, 5, 678000⟩, "a.py:7"⟩
  [.install m, .connect m .null "fe80::1%eth0" 443 (.result .null), .connect m .null "10.0.0.1" 80 (.result .null),
    .uninstall m]

theorem twoConnections_read_back :
    NetworkLog.read (.withLog ((Watch.single .empty .output).after 0 (twoConnections.map NetworkStep.toStep)).output)
      "run.log" = .ok (twoConnections.filterMap NetworkStep.activity?) := by
  have hregular : ∀ s ∈ twoConnections, s.Regular := by
    intro s hs
    simp only [twoConnections, List.mem_cons, List.not_mem_nil, or_false] at hs
    rcases hs with rfl | rfl | rfl | rfl
    · trivial
    · exact ⟨List.all_eq_true.mp (by decide), by decide⟩
    · exact ⟨List.all_eq_true.mp (by decide), by decide⟩
    · trivial
  have houtcomes : (Watch.single .empty .output).outcomes 0 (twoConnections.map NetworkStep.toStep) =
      [.result .null, .result .null] := rfl
  refine (connections_read_back (Watch.alone_single .empty .output) rfl hregular ?_ (Disk.read_withLog _)).1
  rw [houtcomes]
  simp

end Hook
end ThreatScan
