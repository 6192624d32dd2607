import ThreatScan.Proofs.Clock
import ThreatScan.Proofs.Hook.Logging
import ThreatScan.Proofs.Log.NetworkEntry
/-!
Network activity in the log of a monitor.

The log of a monitor is read entry by entry (`ofStored_logText_append`), and the log of its destination is read as the text
that it holds (`read_log`). An entry is read as network activity if one of its lines mentions some (`Poses`), whatever call
it is an entry of; a line that does holds the word NETWORK (`Mentions.isInfix`).
-/
namespace ThreatScan

namespace NetworkLog

theorem isMessage_connect {address : List Char} (h : address ≠ [] ∧ ∀ c ∈ address, isQuote c = false)
    (rest : List Char) : IsMessage "connect" address
      ("[ALERT] NETWORK: socket.connect called with address='".toList ++ (address ++ '\'' :: rest)) := by
  have hgap := Text.isGap_space
  have hwords : "[ALERT] NETWORK: socket.connect called with address='".toList =
      "[ALERT]".toList ++ ([' '] ++ ("NETWORK:".toList ++ ([' '] ++ ("socket.".toList ++ ("connect".toList ++ ([' '] ++
        ("called".toList ++ ([' '] ++ ("with".toList ++ ([' '] ++ ("address=".toList ++ ['\'']))))))))))) := by
    decide
  refine ⟨.inl rfl, h, [' '], [' '], [' '], [' '], [' '], rest, '\'', '\'', ⟨hgap, hgap, hgap, hgap, hgap⟩, ⟨rfl, rfl⟩, ?_⟩
  rw [hwords]
  simp only [List.append_assoc, List.cons_append, List.nil_append]

theorem IsMessage.isInfix {kind : String} {address s : List Char} (h : IsMessage kind address s) :
    "NETWORK:".toList <:+: s := by
  obtain ⟨-, -, g₁, g₂, g₃, g₄, g₅, rest, q, q', -, -, rfl⟩ := h
  exact ⟨"[ALERT]".toList ++ g₁, _, by rw [List.append_assoc, List.append_assoc]⟩

theorem Mentions.isInfix {line : List Char} (h : Mentions line) : "NETWORK:".toList <:+: line := by
  obtain ⟨t, stamp, kind, address, ht, -, g, m, -, hm, rfl⟩ := h
  have hmt : m <:+ "[".toList ++ (stamp ++ ("]".toList ++ (g ++ m))) :=
    ⟨"[".toList ++ (stamp ++ ("]".toList ++ g)), by simp only [List.append_assoc]⟩
  exact hm.isInfix.trans (hmt.trans ht).isInfix

theorem IsEntry.append {stamp address s : List Char} {kind : String} (h : IsEntry stamp kind address s)
    (more : List Char) : IsEntry stamp kind address (s ++ more) := by
  obtain ⟨hstamp, g, _, hg, ⟨hk, ha, g₁, g₂, g₃, g₄, g₅, rest, q, q', hgaps, hq, rfl⟩, rfl⟩ := h
  refine ⟨hstamp, g, _, hg, ⟨hk, ha, g₁, g₂, g₃, g₄, g₅, rest ++ more, q, q', hgaps, hq, rfl⟩, ?_⟩
  simp only [List.append_assoc, List.cons_append]

/-- What is in a part of a line is in the line. -/
theorem Mentions.mono {x line : List Char} (h : Mentions x) (hx : x <:+: line) : Mentions line := by
  obtain ⟨t, stamp, kind, address, ⟨s, rfl⟩, he⟩ := h
  obtain ⟨a, b, rfl⟩ := hx
  exact ⟨t ++ b, stamp, kind, address, ⟨a ++ s, by simp only [List.append_assoc]⟩, he.append b⟩

end NetworkLog

def Disk.withLog (text : String) : Disk := ⟨[(Disk.workPlace ++ ["run.log"], .file (.text text) none)]⟩

theorem Disk.read_withLog (text : String) : (Disk.withLog text).read "run.log" = .ok (.text text) := rfl

namespace Hook

open NetworkLog (Mentions ofLines ofStored)
open Text (OneLine storedLines)

namespace LogEntry

def body (e : LogEntry) : List Char := e.now.stamped e.message.toList

theorem toList_text (e : LogEntry) : e.text.toList = e.body ++ ['\n'] := by
  simp [text, body, Instant.stamped]

theorem storedLines_text {e : LogEntry} (h : OneLine e.message.toList) : storedLines e.text.toList = [e.body, []] := by
  have hbody : OneLine e.body := by
    rw [body, Instant.stamped_eq]
    exact Instant.oneLine_stamp.append h
  have hend : storedLines ['\n'] = [[], []] := rfl
  have hlines := Text.storedLines_append hbody hend
  rwa [List.append_nil, ← toList_text] at hlines

theorem ofList_body (e : LogEntry) : String.ofList e.body = "[" ++ e.now.logText ++ "] " ++ e.message := by
  rw [← String.toList_inj]
  simp only [LogEntry.body, Instant.stamped, String.toList_ofList, String.toList_append, List.append_assoc]

/-- A line that is an entry of network activity from its start is read as that. -/
theorem ofStored_text {e : LogEntry} (hline : OneLine e.message.toList) {stamp address : List Char} {kind : String}
    {a : Address} (he : NetworkLog.IsEntry stamp kind address e.body) (ha : Address.ofText address = .ok a) :
    ofStored e.text = .ok [⟨kind, String.ofList stamp, Text.trim (String.ofList e.body), a⟩] := by
  have hfirst := Text.firstOf?_of_some (NetworkLog.entry?_eq_some.mpr he)
  have hread : NetworkLog.ofLine (String.ofList e.body) =
      .ok (some ⟨kind, String.ofList stamp, Text.trim (String.ofList e.body), a⟩) := by
    unfold NetworkLog.ofLine
    rw [String.toList_ofList, hfirst]
    simp only [ha]
    rfl
  unfold ofStored ofLines
  rw [storedLines_text hline, List.mapM_cons, hread]
  rfl

def Poses (e : LogEntry) : Prop := ∃ l ∈ storedLines e.text.toList, Mentions l

theorem poses_iff {e : LogEntry} : e.Poses ↔ ∃ x, OneLine x ∧ Mentions x ∧ x <:+: e.text.toList := by
  constructor
  · rintro ⟨l, hl, hm⟩
    have hline := Text.oneLine_of_mem_storedLines hl
    exact ⟨l, hline, hm, (Text.exists_mem_storedLines_iff hline).mp ⟨l, hl, List.infix_refl l⟩⟩
  · rintro ⟨x, hx, hm, hholds⟩
    obtain ⟨l, hl, hxl⟩ := (Text.exists_mem_storedLines_iff hx).mpr hholds
    exact ⟨l, hl, hm.mono hxl⟩

/-- An entry that is read as network activity says so in its message. -/
theorem Poses.isInfix {e : LogEntry} (h : e.Poses) : "NETWORK:".toList <:+: e.message.toList := by
  obtain ⟨x, -, hm, hx⟩ := poses_iff.mp h
  have htext := hm.isInfix.trans hx
  -- the word does not begin in the time stamp, and does not run into the line end
  rw [toList_text, body, Instant.stamped_eq] at htext
  exact Text.infix_of_infix_append (Instant.not_mem_stamp (by decide) (by decide) (by decide))
    (Text.infix_of_infix_concat (by decide) htext)

theorem ofStored_text_eq_nil {e : LogEntry} : ofStored e.text = .ok [] ↔ ¬ e.Poses := by
  unfold ofStored Poses
  rw [NetworkLog.ofLines_eq_nil]
  simp only [not_exists, not_and]

end LogEntry

theorem ofStored_logText_cons (e : LogEntry) (es : List LogEntry) :
    ofStored (logText (e :: es)) = do return (← ofStored e.text) ++ (← ofStored (logText es)) := by
  rw [logText_cons]
  exact NetworkLog.ofStored_append _ _

theorem ofStored_logText_append (es fs : List LogEntry) :
    ofStored (logText (es ++ fs)) = do return (← ofStored (logText es)) ++ (← ofStored (logText fs)) := by
  induction es with
  | nil =>
    rw [List.nil_append, logText_nil, NetworkLog.ofStored_empty]
    cases ofStored (logText fs) <;> rfl
  | cons e rest ih =>
    rw [List.cons_append, ofStored_logText_cons, ofStored_logText_cons, ih]
    simp only [bind_assoc, pure_bind, List.append_assoc]

theorem ofStored_logText_eq_nil {es : List LogEntry} : ofStored (logText es) = .ok [] ↔ ∀ e ∈ es, ¬ e.Poses := by
  induction es with
  | nil => exact ⟨fun _ e he => absurd he List.not_mem_nil, fun _ => rfl⟩
  | cons e rest ih =>
    rw [ofStored_logText_cons, List.forall_mem_cons, ← ih, ← LogEntry.ofStored_text_eq_nil]
    cases ofStored e.text with
    | error f => exact ⟨fun h => (by cases h), fun h => (by cases h.1)⟩
    | ok as =>
      cases ofStored (logText rest) with
      | error f => exact ⟨fun h => (by cases h), fun h => (by cases h.2)⟩
      | ok bs => simp [Checked.ok_bind]

theorem Watch.read_log {w : Watch} {text : String} {destination : Destination} {d : Disk} {path : String}
    (h : w.LogHolds text destination) (hl : w.IsLog d path destination) : NetworkLog.read d path = ofStored text := by
  cases destination with
  | output =>
    rw [NetworkLog.read_of_read hl]
    exact congrArg ofStored h
  | file log =>
    obtain ⟨rfl, rfl⟩ := hl
    rcases h with hread | ⟨rfl, hmissing, -⟩
    · exact NetworkLog.read_of_read hread
    · obtain ⟨e, he⟩ := Disk.exists_error_of_missing hmissing
      unfold NetworkLog.read
      rw [he]
      rfl

end Hook
end ThreatScan
