import ThreatScan.Proofs.Log.Connections
import ThreatScan.Proofs.Threat.Judged
/-!
The line numbers of network threats.

The line of a network activity is the first number between two colons in its log line. In the first line of an entry that
is the minute of the time stamp (`markedLine_stamped`), whatever the call stack says; in further lines of a message it is
what the message says. So the line numbers of the threat are the minutes of the entries that announce network activity, and
what is marked in further lines (`lines_spec`). They are the same at other times exactly if these numbers are
(`lines_eq_iff_marks`).
-/
namespace ThreatScan

open Text (storedLines trimList)
open Hook (LogEntry logText)

/-! ## The first mark in a line -/

namespace Threat

theorem numberMark?_append {p : List Char} (hp : ':' ∉ p) (s : List Char) : numberMark? (p ++ s) = numberMark? s := by
  induction p with
  | nil => rfl
  | cons c rest ih =>
    have hc : (c == ':') = false := beq_eq_false_iff_ne.mpr (List.ne_of_not_mem_cons hp).symm
    rw [List.cons_append, numberMark?, hc]
    exact ih (List.not_mem_of_not_mem_cons hp)

theorem numberMark?_mark {digits : List Char} (hne : digits ≠ []) (hd : ∀ c ∈ digits, Text.isDecimalDigit c = true)
    (rest : List Char) : numberMark? (':' :: (digits ++ ':' :: rest)) = some digits := by
  have htake : (digits ++ ':' :: rest).takeWhile Text.isDecimalDigit = digits :=
    Text.takeWhile_append_stop hd (by simpa using (by decide : Text.isDecimalDigit ':' = false))
  rw [numberMark?, htake, List.drop_left]
  simp [hne]

theorem trimList_stamped (t : Instant) (s : List Char) : trimList (t.stamped s) =
    ('[' :: t.logText.toList) ++ ']' :: Text.dropRight Text.isBlank (' ' :: s) := by
  unfold Instant.stamped
  generalize t.logText.toList = stamp
  exact Text.trimList_between (by decide) (by decide) stamp (' ' :: s)

theorem number?_minute {m : Nat} (hm : m < 60) : Text.number? (Text.padded 2 m).toList = some m := by
  have hvalue : ∀ m < 60, (Text.padded 2 m).toList.length = 2 ∧
      Text.natOfDigits ((Text.padded 2 m).toList.map Text.digitValue) = m := by decide
  unfold Text.number?
  rw [(hvalue m hm).1, (hvalue m hm).2, if_neg (by decide)]

/-- A line that starts with a time stamp is marked with its minute. -/
theorem markedLine_stamped {t : Instant} (ht : t.minute < 60) (s : List Char) :
    markedLine (trimList (t.stamped s)) = .ok (some (.int t.minute)) := by
  obtain ⟨before, after, hbefore, hlog⟩ := t.exists_logText_minute
  have hopen : ':' ∉ '[' :: before := List.not_mem_cons_of_ne_of_not_mem (by decide) hbefore
  have hmark : numberMark? (trimList (t.stamped s)) = some (Text.padded 2 t.minute).toList := by
    rw [trimList_stamped, hlog, ← List.cons_append, List.append_assoc, numberMark?_append hopen, List.cons_append,
      List.append_assoc, List.cons_append, numberMark?_mark Text.padded_ne_nil]
    exact fun c hc => Text.isDecimalDigit_of_isDigit (Text.isDigit_of_mem_padded hc)
  simp only [markedLine, hmark, number?_minute ht]

theorem exists_int_of_markedLine {line : List Char} {v : Value} (h : markedLine line = .ok (some v)) :
    ∃ k : Nat, v = .int k := by
  unfold markedLine at h
  split at h
  · cases h
  · split at h
    · next n _ => exact ⟨n, (Option.some.inj (Except.ok.inj h)).symm⟩
    · cases h

end Threat

/-! ## Lines that are read -/

namespace NetworkLog

/-- A line with the text behind its time stamp is read as network activity. -/
def Announces (s : List Char) : Prop :=
  Mentions s ∨ ∃ g kind address m, Text.IsGap g ∧ IsMessage kind address m ∧ ' ' :: s = g ++ m

theorem mentions_behind_iff {stamp s : List Char} (hne : stamp ≠ []) (hopen : '[' ∉ stamp) (hclose : ']' ∉ stamp) :
    Mentions ("[".toList ++ (stamp ++ ("] ".toList ++ s))) ↔ Announces s := by
  constructor
  · rintro ⟨x, stamp', kind, address, hx, ⟨hne', hclose'⟩, g, m, hg, hm, rfl⟩
    rcases List.suffix_cons_iff.mp hx with heq | hx
    · -- the entry starts with the line
      obtain ⟨-, hrest⟩ := Text.append_cons_inj hclose' hclose (List.cons.inj heq).2
      exact .inr ⟨g, kind, address, m, hg, hm, hrest.symm⟩
    · have hnot : '[' ∉ stamp ++ "] ".toList := by
        rw [List.mem_append, not_or]
        exact ⟨hopen, by decide⟩
      have hsuffix : '[' :: (stamp' ++ ("]".toList ++ (g ++ m))) <:+ (stamp ++ "] ".toList) ++ s := by
        rw [List.append_assoc]
        exact hx
      exact .inl ⟨_, stamp', kind, address, Text.suffix_of_suffix_append hnot hsuffix, ⟨hne', hclose'⟩, g, m, hg, hm, rfl⟩
  · rintro (hm | ⟨g, kind, address, m, hg, hm, hs⟩)
    · exact hm.mono ⟨"[".toList ++ (stamp ++ "] ".toList), [], by simp only [List.append_assoc, List.append_nil]⟩
    · refine ⟨_, stamp, kind, address, List.suffix_refl _, ⟨hne, hclose⟩, g, m, hg, hm, ?_⟩
      rw [← hs]
      rfl

/-- Whether a line is read does not depend on its time stamp. -/
theorem mentions_stamped_iff {t : Instant} {s : List Char} : Mentions (t.stamped s) ↔ Announces s :=
  mentions_behind_iff Instant.logText_ne_nil (Instant.not_mem_logText (by decide)) (Instant.not_mem_logText (by decide))

theorem line_of_ofLine {line : String} {a : NetworkActivity} (h : ofLine line = .ok (some a)) :
    a.line = Text.trim line := by
  unfold ofLine at h
  split at h
  · cases h
  · obtain ⟨address, -, h⟩ := Checked.bind_eq_ok.mp h
    cases Checked.pure_eq_ok.mp h
    rfl

/-- The activities have the lines that mention some, without the blanks around them. -/
theorem exists_line_iff {ls : List (List Char)} {as : List NetworkActivity} (h : ofLines ls = .ok as)
    (P : List Char → Prop) : (∃ a ∈ as, P a.line.toList) ↔ ∃ l ∈ ls, Mentions l ∧ P (trimList l) := by
  obtain ⟨os, hos, h⟩ := Checked.bind_eq_ok.mp h
  cases Checked.pure_eq_ok.mp h
  have hmem := Checked.mem_iff_of_mapM_eq_ok hos
  have hline : ∀ {l a}, ofLine (String.ofList l) = .ok (some a) → a.line.toList = trimList l := by
    intro l a ha
    rw [line_of_ofLine ha, Text.trim, String.toList_ofList, String.toList_ofList]
  have hsome : ∀ {l o}, ofLine (String.ofList l) = .ok o → (Mentions l ↔ ∃ a, o = some a) := by
    intro l o ho
    have hnone : ofLine (String.ofList l) = .ok none ↔ ¬ Mentions (String.ofList l).toList := ofLine_eq_none
    rw [ho, String.toList_ofList] at hnone
    cases o with
    | none => simpa using hnone
    | some a => simpa using hnone
  constructor
  · rintro ⟨a, ha, hP⟩
    obtain ⟨o, ho, rfl⟩ := List.mem_filterMap.mp ha
    obtain ⟨l, hl, hla⟩ := (hmem _).mp ho
    exact ⟨l, hl, (hsome hla).mpr ⟨a, rfl⟩, hline hla ▸ hP⟩
  · rintro ⟨l, hl, hm, hP⟩
    obtain ⟨o, ho, hlo⟩ := exists_right_of_forall₂ (Checked.mapM_eq_ok.mp hos) hl
    obtain ⟨a, rfl⟩ := (hsome hlo).mp hm
    exact ⟨a, List.mem_filterMap.mpr ⟨_, ho, rfl⟩, (hline hlo).symm ▸ hP⟩

end NetworkLog

/-! ## Marks in a log -/

namespace Hook

open NetworkLog (Announces Mentions ofStored)

theorem exists_logText_line_iff {es : List LogEntry} {as : List NetworkActivity} (h : ofStored (logText es) = .ok as)
    (P : List Char → Prop) : (∃ a ∈ as, P a.line.toList) ↔
      ∃ e ∈ es, ∃ l ∈ storedLines e.text.toList, Mentions l ∧ P (trimList l) := by
  induction es generalizing as with
  | nil =>
    cases h
    simp
  | cons e rest ih =>
    rw [ofStored_logText_cons] at h
    obtain ⟨as₁, h₁, h⟩ := Checked.bind_eq_ok.mp h
    obtain ⟨as₂, h₂, h⟩ := Checked.bind_eq_ok.mp h
    cases Checked.pure_eq_ok.mp h
    simp only [List.mem_cons, List.mem_append, or_and_right, exists_or, exists_eq_left]
    rw [ih h₂, NetworkLog.exists_line_iff h₁]

def messageLines (message : String) : List (List Char) := storedLines (message.toList ++ ['\n'])

/-- The minute of an entry whose first line announces network activity. -/
def ClockMark (es : List LogEntry) (k : Nat) : Prop :=
  ∃ e ∈ es, (∃ first ∈ (messageLines e.message).head?, Announces first) ∧ e.now.minute = k

/-- A number that is marked in a further line of a message. -/
def TextMark (messages : List String) (k : Nat) : Prop :=
  ∃ message ∈ messages, ∃ l ∈ (messageLines message).tail,
    Mentions l ∧ Threat.markedLine (trimList l) = .ok (some (.int k))

/-- The time stamp stands in front of the first line of the message. -/
theorem LogEntry.storedLines_eq (e : LogEntry) : ∃ first others, messageLines e.message = first :: others ∧
    storedLines e.text.toList = e.now.stamped first :: others := by
  obtain ⟨first, others, hlines⟩ := Text.exists_storedLines (e.message.toList ++ ['\n'])
  refine ⟨first, others, hlines, ?_⟩
  rw [LogEntry.toList_text, LogEntry.body, Instant.stamped_eq, Instant.stamped_eq, List.append_assoc]
  exact Text.storedLines_append Instant.oneLine_stamp hlines

/-- The lines of an entry that are read: the first if it announces network activity, the others if they mention it. -/
theorem LogEntry.exists_line_iff (e : LogEntry) (P : List Char → Prop) :
    (∃ l ∈ storedLines e.text.toList, Mentions l ∧ P l) ↔
      (∃ first ∈ (messageLines e.message).head?, Announces first ∧ P (e.now.stamped first)) ∨
      ∃ l ∈ (messageLines e.message).tail, Mentions l ∧ P l := by
  obtain ⟨first, others, hmessage, hlines⟩ := e.storedLines_eq
  rw [hlines, hmessage]
  simp [NetworkLog.mentions_stamped_iff]

/-- The message is read as network activity. -/
def Posing (message : String) : Prop :=
  (∃ first ∈ (messageLines message).head?, Announces first) ∨ ∃ l ∈ (messageLines message).tail, Mentions l

/-- Which entries are read as network activity does not depend on the time. -/
theorem LogEntry.poses_iff_posing {e : LogEntry} : e.Poses ↔ Posing e.message := by
  unfold LogEntry.Poses Posing
  simpa using e.exists_line_iff fun _ => True

/-- What is marked in the lines that are read from a log. -/
theorem exists_mark_iff {es : List LogEntry} (hes : ∀ e ∈ es, e.now.minute < 60) {as : List NetworkActivity}
    (h : ofStored (logText es) = .ok as) (v : Value) :
    (∃ a ∈ as, Threat.markedLine a.line.toList = .ok (some v)) ↔
      ∃ k : Nat, v = .int k ∧ (ClockMark es k ∨ TextMark (es.map (·.message)) k) := by
  rw [exists_logText_line_iff h fun line => Threat.markedLine line = .ok (some v)]
  simp only [LogEntry.exists_line_iff _ fun line => Threat.markedLine (trimList line) = .ok (some v)]
  constructor
  · rintro ⟨e, he, ⟨first, hfirst, hm, hmark⟩ | ⟨l, hl, hm, hmark⟩⟩
    · rw [Threat.markedLine_stamped (hes e he)] at hmark
      cases hmark
      exact ⟨_, rfl, .inl ⟨e, he, ⟨first, hfirst, hm⟩, rfl⟩⟩
    · obtain ⟨k, rfl⟩ := Threat.exists_int_of_markedLine hmark
      exact ⟨k, rfl, .inr ⟨e.message, List.mem_map.mpr ⟨e, he, rfl⟩, l, hl, hm, hmark⟩⟩
  · rintro ⟨k, rfl, ⟨e, he, ⟨first, hfirst, hm⟩, rfl⟩ | ⟨message, hmem, l, hl, hm, hmark⟩⟩
    · exact ⟨e, he, .inl ⟨first, hfirst, hm, Threat.markedLine_stamped (hes e he) first⟩⟩
    · obtain ⟨e, he, rfl⟩ := List.mem_map.mp hmem
      exact ⟨e, he, .inr ⟨l, hl, hm, hmark⟩⟩

end Hook

/-! ## The threat -/

section Activities
variable {static dynamic : Value} {a : Aggregate} {ts : List Threat} (h : Judged static dynamic a ts)
  {as : List NetworkActivity} (has : findingsAt dynamic "network_activities" = as.map (·.toValue))
include h has

/-- The clues to the threat are the activities, each with the line that is marked in it. -/
theorem supports_exfiltration_iff (c : Clue) : Threat.Supports a.findings .exfiltration c ↔
    ∃ x ∈ as, ∃ line, Threat.markedLine x.line.toList = .ok line ∧ c = ⟨x.toValue, line⟩ := by
  obtain ⟨-, -, -, hitems, -⟩ := Aggregate.items_of_ofResults h.aggregated
  rw [has] at hitems
  have hclue : ∀ x : NetworkActivity, Threat.activityClue x.toValue = .ok (some c) ↔
      ∃ line, Threat.markedLine x.line.toList = .ok line ∧ c = ⟨x.toValue, line⟩ := by
    intro x
    have hunfold : Threat.activityClue x.toValue = do return some ⟨x.toValue, ← Threat.markedLine x.line.toList⟩ := rfl
    rw [hunfold, Checked.bind_eq_ok]
    simp only [Checked.pure_eq_ok, Option.some.injEq, eq_comm (b := c)]
  unfold Threat.Supports
  simp only [Threat.clueSources, List.mem_singleton, exists_eq_left, hitems, Except.ok.injEq, exists_eq_left',
    List.mem_map, exists_exists_and_eq_and, hclue]

theorem exists_exfiltration_iff : (∃ t ∈ ts, t.kind = .exfiltration) ↔ as ≠ [] := by
  have hsupports := supports_exfiltration_iff h has
  obtain ⟨-, -, -, hitems, -⟩ := Aggregate.items_of_ofResults h.aggregated
  obtain ⟨os, hos, rfl⟩ := h.threats
  obtain ⟨o, ho, hkind⟩ := exists_right_of_forall₂ hos (ThreatKind.mem_all .exfiltration)
  have hsome := Threat.ofKind_isSome_iff hkind
  constructor
  · rintro ⟨t, ht, hk⟩ rfl
    obtain ⟨-, ht⟩ := (Threat.mem_threats_iff hos t).mp ht
    rw [hk] at ht
    obtain ⟨c, hc⟩ := (Threat.ofKind_isSome_iff ht).mp rfl
    obtain ⟨x, hx, -⟩ := (hsupports c).mp hc
    exact absurd hx List.not_mem_nil
  · intro hne
    obtain ⟨x, hx⟩ := List.exists_mem_of_ne_nil as hne
    -- the mark of every activity was read, or there would be no threats at all
    obtain ⟨cs, hcs, -⟩ := Threat.ofKind_eq_ok hkind
    obtain ⟨xs, hxs, hcs⟩ := Checked.bind_eq_ok.mp (show Threat.cluesIn _ Threat.activityClue = .ok cs from hcs)
    rw [hitems, has] at hxs
    cases hxs
    obtain ⟨clues, hclues, -⟩ := Checked.bind_eq_ok.mp hcs
    obtain ⟨clue, -, hclue⟩ := exists_right_of_forall₂ (Checked.mapM_eq_ok.mp hclues) (List.mem_map.mpr ⟨x, hx, rfl⟩)
    obtain ⟨line, hline, -⟩ := Checked.bind_eq_ok.mp hclue
    obtain ⟨t, rfl⟩ := Option.isSome_iff_exists.mp (hsome.mpr ⟨_, (hsupports _).mpr ⟨x, hx, line, hline, rfl⟩⟩)
    exact ⟨t, List.mem_filterMap.mpr ⟨some t, ho, rfl⟩, Threat.kind_of_ofKind hkind⟩

theorem lines_of_exfiltration {t : Threat} (ht : t ∈ ts) (hk : t.kind = .exfiltration) :
    ∃ ls, Threat.sortedLines ls = .ok t.lines ∧
      ∀ l, l ∈ ls ↔ ∃ x ∈ as, Threat.markedLine x.line.toList = .ok (some l) := by
  have hsupports := supports_exfiltration_iff h has
  obtain ⟨os, hos, rfl⟩ := h.threats
  obtain ⟨-, hkind⟩ := (Threat.mem_threats_iff hos t).mp ht
  rw [hk] at hkind
  obtain ⟨ls, hsorted, hmem⟩ := Threat.lines_of_ofKind hkind
  refine ⟨ls, hsorted, fun l => ?_⟩
  rw [hmem]
  constructor
  · rintro ⟨c, hc, hl⟩
    obtain ⟨x, hx, line, hline, rfl⟩ := (hsupports c).mp hc
    exact ⟨x, hx, by rw [hline]; exact congrArg Except.ok hl⟩
  · rintro ⟨x, hx, hline⟩
    exact ⟨_, (hsupports _).mpr ⟨x, hx, some l, hline, rfl⟩, rfl⟩

end Activities

/-- The threats are those of an analysis whose network activities were read from a log with these entries. -/
def ThreatsOfLog (es : List LogEntry) (ts : List Threat) : Prop :=
  ∃ (d : Disk) (path : String) (as : List NetworkActivity) (static dynamic : Value) (a : Aggregate),
    d.read path = .ok (.text (logText es)) ∧ NetworkLog.read d path = .ok as ∧
    findingsAt dynamic "network_activities" = as.map (·.toValue) ∧ Judged static dynamic a ts

namespace ThreatsOfLog

variable {es : List LogEntry} {ts : List Threat} (h : ThreatsOfLog es ts)
include h

theorem exists_exfiltration_iff :
    (∃ t ∈ ts, t.kind = .exfiltration) ↔ ∃ message ∈ es.map (·.message), Hook.Posing message := by
  obtain ⟨d, path, as, static, dynamic, a, hd, hread, has, hjudged⟩ := h
  rw [NetworkLog.read_of_read hd] at hread
  have hnil : NetworkLog.ofStored (logText es) = .ok [] ↔ ∀ e ∈ es, ¬ e.Poses := Hook.ofStored_logText_eq_nil
  rw [hread] at hnil
  rw [ThreatScan.exists_exfiltration_iff hjudged has, ne_eq, ← Except.ok.injEq (ε := Fault), hnil]
  simp [LogEntry.poses_iff_posing]

/-- The line numbers of the threat: minutes, and numbers marked in further lines of messages. -/
theorem lines_spec (hes : ∀ e ∈ es, e.now.minute < 60) {t : Threat} (ht : t ∈ ts) (hk : t.kind = .exfiltration) :
    ∃ ls, Threat.sortedLines ls = .ok t.lines ∧ (∀ l ∈ ls, ∃ n : Int, l = .int n) ∧
      ∀ v, v ∈ t.lines ↔ ∃ k : Nat, 0 < k ∧ v = .int k ∧
        (Hook.ClockMark es k ∨ Hook.TextMark (es.map (·.message)) k) := by
  obtain ⟨d, path, as, static, dynamic, a, hd, hread, has, hjudged⟩ := h
  rw [NetworkLog.read_of_read hd] at hread
  obtain ⟨ls, hsorted, hmem⟩ := lines_of_exfiltration hjudged has ht hk
  simp only [Hook.exists_mark_iff hes hread] at hmem
  have hint : ∀ l ∈ ls, ∃ n : Int, l = .int n := by
    intro l hl
    obtain ⟨k, rfl, -⟩ := (hmem l).mp hl
    exact ⟨k, rfl⟩
  refine ⟨ls, hsorted, hint, fun v => ?_⟩
  rw [Threat.mem_sortedLines_int_iff hsorted hint, hmem]
  constructor
  · rintro ⟨⟨k, rfl, hmark⟩, hpos⟩
    rw [Threat.isPositive_int] at hpos
    exact ⟨k, by simpa using hpos, rfl, hmark⟩
  · rintro ⟨k, hpos, rfl, hmark⟩
    exact ⟨⟨k, rfl, hmark⟩, by rw [Threat.isPositive_int]; simpa using hpos⟩

end ThreatsOfLog

/-- Two logs have the same messages at any times. Then network activity is reported for both or for neither, and its line
numbers are the minutes of the entries that announce it, and what is marked in further lines of messages. So they are equal
exactly if these numbers are. -/
theorem lines_eq_iff_marks {es es' : List LogEntry} (hsame : es.map (·.message) = es'.map (·.message))
    (hes : ∀ e ∈ es, e.now.minute < 60) (hes' : ∀ e ∈ es', e.now.minute < 60) {ts ts' : List Threat}
    (h : ThreatsOfLog es ts) (h' : ThreatsOfLog es' ts') :
    ((∃ t ∈ ts, t.kind = .exfiltration) ↔ ∃ t ∈ ts', t.kind = .exfiltration) ∧
    ∀ t ∈ ts, t.kind = .exfiltration → ∀ t' ∈ ts', t'.kind = .exfiltration →
      (∀ v, v ∈ t.lines ↔ ∃ k : Nat, 0 < k ∧ v = .int k ∧
        (Hook.ClockMark es k ∨ Hook.TextMark (es.map (·.message)) k)) ∧
      (t.lines = t'.lines ↔ ∀ k, 0 < k → (Hook.ClockMark es k ∨ Hook.TextMark (es.map (·.message)) k ↔
        Hook.ClockMark es' k ∨ Hook.TextMark (es.map (·.message)) k)) := by
  refine ⟨?_, fun t ht hk t' ht' hk' => ?_⟩
  · rw [h.exists_exfiltration_iff, h'.exists_exfiltration_iff, hsame]
  · obtain ⟨ls, hsorted, hint, hmem⟩ := h.lines_spec hes ht hk
    obtain ⟨ls', hsorted', hint', hmem'⟩ := h'.lines_spec hes' ht' hk'
    rw [← hsame] at hmem'
    refine ⟨hmem, fun heq k hpos => ?_, fun hmarks => ?_⟩
    · have hv := hmem (.int k)
      rw [heq, hmem'] at hv
      simpa [hpos] using hv.symm
    · refine Threat.sortedLines_int_ext hsorted hsorted' hint hint' fun v => ?_
      rw [hmem, hmem']
      constructor
      · rintro ⟨k, hpos, hv, hmark⟩
        exact ⟨k, hpos, hv, (hmarks k hpos).mp hmark⟩
      · rintro ⟨k, hpos, hv, hmark⟩
        exact ⟨k, hpos, hv, (hmarks k hpos).mpr hmark⟩

namespace OneConnection

/-- The moment of a connection that is opened in line 7 of a program. -/
def moment (hour minute : Nat) : Hook.Moment := ⟨⟨2024, 1, 2, hour, minute, 5, 678000⟩, "a.py:7"⟩

def entry (hour minute : Nat) : LogEntry := ⟨(moment hour minute).now, Hook.connectMessage "10.0.0.1" 80 "a.py:7"⟩

def activity (hour minute : Nat) : NetworkActivity :=
  let stamp := (moment hour minute).now.logText
  ⟨"connect", stamp, Text.trim ("[" ++ stamp ++ "] " ++ Hook.connectMessage "10.0.0.1" 80 "a.py:7"),
    .text ("10.0.0.1" ++ ":" ++ toString 80)⟩

def threat (hour minute : Nat) (lines : List Value) : Threat := ⟨.exfiltration, [(activity hour minute).toValue], lines⟩

theorem judged_activity {x : NetworkActivity} {v : Value} {lines : List Value}
    (hmark : Threat.markedLine x.line.toList = .ok (some v)) (hlines : Threat.sortedLines [v] = .ok lines) :
    ∃ a, Judged (.dict []) (.dict [("network_activities", .list [x.toValue])]) a
      [⟨.exfiltration, [x.toValue], lines⟩] := by
  refine ⟨_, rfl, Checked.bind_eq_ok.mpr ⟨_, rfl, Checked.bind_eq_ok.mpr
    ⟨[none, none, none, none, none, some ⟨.exfiltration, [x.toValue], lines⟩, none, none], ?_, rfl⟩⟩⟩
  have hclue : Threat.activityClue x.toValue = .ok (some ⟨x.toValue, some v⟩) :=
    Checked.bind_eq_ok.mpr ⟨some v, hmark, rfl⟩
  have hkind : ∀ f : Threat.Findings, f.networkActivities = .list [x.toValue] →
      Threat.ofKind f .exfiltration = .ok (some ⟨.exfiltration, [x.toValue], lines⟩) := by
    intro f hf
    have hclues : Threat.cluesIn f.networkActivities Threat.activityClue = .ok [⟨x.toValue, some v⟩] := by
      rw [hf]
      refine Checked.bind_eq_ok.mpr ⟨[x.toValue], rfl, Checked.bind_eq_ok.mpr ⟨[some ⟨x.toValue, some v⟩], ?_, rfl⟩⟩
      rw [List.mapM_cons, hclue]
      rfl
    exact Checked.bind_eq_ok.mpr ⟨_, hclues, Checked.bind_eq_ok.mpr ⟨lines, hlines, rfl⟩⟩
  exact Checked.mapM_eq_ok.mpr (.cons rfl (.cons rfl (.cons rfl (.cons rfl (.cons rfl (.cons (hkind _ rfl)
    (.cons rfl (.cons rfl .nil))))))))

theorem threatsOfLog (hour : Nat) {minute : Nat} (hm : minute < 60) {lines : List Value}
    (hlines : Threat.sortedLines [.int minute] = .ok lines) :
    ThreatsOfLog [entry hour minute] [threat hour minute lines] := by
  have hhost : ∀ c ∈ "10.0.0.1".toList, Hook.isHostChar c = true := List.all_eq_true.mp (by decide)
  have hstack : Text.OneLine (moment hour minute).stack.toList := (by decide : Text.OneLine "a.py:7".toList)
  have hread : NetworkLog.ofStored (logText [entry hour minute]) = .ok [activity hour minute] := by
    rw [Hook.ofStored_logText_cons, entry]
    exact Checked.bind_eq_ok.mpr ⟨_, Hook.ofStored_connect hhost 80 hstack .null (.result .null), rfl⟩
  have hline : (activity hour minute).line.toList =
      trimList ((moment hour minute).now.stamped (entry hour minute).message.toList) := by
    simp only [activity, Text.trim, String.toList_ofList, String.toList_append, Instant.stamped, List.append_assoc, entry]
  have hmark : Threat.markedLine (activity hour minute).line.toList = .ok (some (.int minute)) := by
    rw [hline]
    exact Threat.markedLine_stamped hm _
  obtain ⟨a, hjudged⟩ := judged_activity hmark hlines
  exact ⟨_, "run.log", _, _, _, a, Disk.read_withLog _, (NetworkLog.read_of_read (Disk.read_withLog _)).trans hread, rfl,
    hjudged⟩

theorem threatsOfLog_four : ThreatsOfLog [entry 3 4] [threat 3 4 [.int 4]] := threatsOfLog 3 (by decide) rfl

/-- At a full hour there is no line number. -/
theorem threatsOfLog_zero : ThreatsOfLog [entry 3 0] [threat 3 0 []] := threatsOfLog 3 (by decide) rfl

theorem marks_of_two_minutes : ThreatsOfLog [entry 3 4] [threat 3 4 [.int 4]] ∧ ThreatsOfLog [entry 3 0] [threat 3 0 []] ∧
    ¬ ∀ k, 0 < k → (Hook.ClockMark [entry 3 4] k ∨ Hook.TextMark ([entry 3 4].map (·.message)) k ↔
      Hook.ClockMark [entry 3 0] k ∨ Hook.TextMark ([entry 3 4].map (·.message)) k) := by
  have hsame : [entry 3 4].map (·.message) = [entry 3 0].map (·.message) := rfl
  have hiff := (lines_eq_iff_marks hsame (by decide) (by decide) threatsOfLog_four threatsOfLog_zero).2 _
    List.mem_cons_self rfl _ List.mem_cons_self rfl
  refine ⟨threatsOfLog_four, threatsOfLog_zero, fun hmarks => ?_⟩
  cases hiff.2.mpr hmarks

/-- Logs with the same messages can differ in the line numbers of the threat. -/
theorem lines_depend_on_minute : ¬ ∀ es es' : List LogEntry, es.map (·.message) = es'.map (·.message) →
    (∀ e ∈ es, e.now.minute < 60) → (∀ e ∈ es', e.now.minute < 60) → ∀ ts ts', ThreatsOfLog es ts → ThreatsOfLog es' ts' →
    ∀ t ∈ ts, t.kind = .exfiltration → ∀ t' ∈ ts', t'.kind = .exfiltration → t.lines = t'.lines := by
  intro hall
  cases hall [entry 3 4] [entry 3 0] rfl (by decide) (by decide) _ _ threatsOfLog_four threatsOfLog_zero _
    List.mem_cons_self rfl _ List.mem_cons_self rfl

end OneConnection

end ThreatScan
