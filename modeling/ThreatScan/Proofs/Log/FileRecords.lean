import Mathlib.Data.List.TakeWhile
import ThreatScan.Log.FileLog
import ThreatScan.Proofs.Clock
import ThreatScan.Proofs.Disk.Files
import ThreatScan.Proofs.Text.Cut
/-!
File operations read back from their log.

The reader cuts a line at the word FILE and then at colons, wherever they stand. So it takes the text in front of the
first colon for the path, and if the path holds none, that is the path with the start of the mode behind it (`shownPath`);
a line with the word FILE in the path or the mode is not read at all; and the lines of a mode that has several are read on
their own. `readBack` says what is read of a call, and a log is read as that of its calls (`records_read_back`). No path
is read back as it was written (`shownPath_ne`).
-/
namespace ThreatScan.FileLog

open Text (OneLine storedLines dropRight isBlank trimList cutFrom cutAt)

/-! ## One line -/

section Line
variable {line a entry : List Char}

theorem ofLine?_eq_some {operation path : List Char} {others : List (List Char)}
    (hline : cutFrom "FILE".toList 0 (trimList line) = [a, entry])
    (hentry : cutFrom ":".toList 0 (trimList entry) = operation :: path :: others) :
    ofLine? (String.ofList line) = some ⟨Text.lower (Text.trim (String.ofList operation)), Text.trim (String.ofList path),
      Text.contains (String.ofList line) "[ALERT]"⟩ := by
  simp only [ofLine?, Text.cut, Text.trim, String.toList_ofList, hline, hentry, List.map_cons, List.map_nil]

theorem ofLine?_eq_none {pieces : List (List Char)} (hline : cutFrom "FILE".toList 0 (trimList line) = a :: pieces)
    (hpieces : 2 ≤ pieces.length) : ofLine? (String.ofList line) = none := by
  match pieces, hpieces with
  | p :: q :: rest, _ => simp only [ofLine?, Text.cut, Text.trim, String.toList_ofList, hline, List.map_cons]

end Line

section Entry
variable {lead operation path : List Char}

/-- An entry behind the word FILE: the operation, the path and the start of the mode, and what comes behind that. -/
def entryText (operation path rest : List Char) : List Char :=
  ' ' :: (operation ++ ':' :: ((' ' :: (path ++ " (mode".toList)) ++ ':' :: rest))

/-- A text without blanks and colons stands in front of the entry, in the path or behind the mode, if not in the
operation. -/
theorem infix_append_entryText_iff {x : List Char} (hx : ' ' ∉ x ∧ ':' ∉ x) (hmode : ¬ x <:+: "(mode".toList)
    (hop : ¬ x <:+: operation) (before rest : List Char) :
    x <:+: before ++ entryText operation path rest ↔ x <:+: before ∨ x <:+: path ∨ x <:+: rest := by
  obtain ⟨hspace, hcolon⟩ := hx
  have hnil : ¬ x <:+: [] := fun h => hop (List.infix_nil.mp h ▸ List.nil_infix)
  have hpath : (' ' :: (path ++ " (mode".toList)) = [] ++ ' ' :: (path ++ ' ' :: "(mode".toList) := rfl
  unfold entryText
  rw [Text.infix_append_cons_iff hspace, Text.infix_append_cons_iff hcolon, Text.infix_append_cons_iff hcolon, hpath,
    Text.infix_append_cons_iff hspace, Text.infix_append_cons_iff hspace]
  simp only [hnil, hop, hmode, false_or, or_false]

theorem trimList_entryText {c : Char} (hc : isBlank c = false) (rest : List Char) :
    trimList (entryText (c :: operation) path rest) =
      (c :: operation) ++ ':' :: ((' ' :: (path ++ " (mode".toList)) ++ ':' :: dropRight isBlank rest) := by
  have hshape : ∀ t, (c :: operation) ++ ':' :: ((' ' :: (path ++ " (mode".toList)) ++ ':' :: t) =
      c :: ((operation ++ ':' :: ' ' :: (path ++ " (mode".toList)) ++ ':' :: t) := fun t => by simp
  unfold entryText
  rw [Text.trimList_cons_of_blank (by decide), hshape, hshape, Text.trimList_between hc (by decide)]

theorem cutFrom_line (hlead : ¬ "FILE".toList <:+: '[' :: lead) (rest : List Char) :
    cutFrom "FILE".toList 0 (trimList ('[' :: lead ++ ' ' :: ("FILE".toList ++ entryText operation path rest))) =
      ('[' :: lead ++ [' ']) :: cutFrom "FILE".toList 0 (entryText operation path (dropRight isBlank rest)) := by
  have hshape : ∀ t, '[' :: lead ++ ' ' :: ("FILE".toList ++ entryText operation path t) =
      '[' :: ((lead ++ ' ' :: ("FILE".toList ++ ' ' :: (operation ++ ':' :: ' ' :: (path ++ " (mode".toList)))) ++
        ':' :: t) := fun t => by simp [entryText]
  have htrim : trimList ('[' :: lead ++ ' ' :: ("FILE".toList ++ entryText operation path rest)) =
      '[' :: lead ++ ' ' :: ("FILE".toList ++ entryText operation path (dropRight isBlank rest)) := by
    rw [hshape, hshape, Text.trimList_between (by decide) (by decide)]
  rw [htrim, Text.cutFrom_append_cons (by decide) hlead (Text.cutFrom_sep_append (by decide) _)]

theorem ofLine?_line {c : Char} (hlead : ¬ "FILE".toList <:+: '[' :: lead) (hc : isBlank c = false)
    (hop : ¬ "FILE".toList <:+: c :: operation) (hcolon : ':' ∉ c :: operation) (first : List Char) {line : List Char}
    (hline : line = '[' :: lead ++ ' ' :: ("FILE".toList ++ entryText (c :: operation) path (' ' :: first))) :
    ofLine? (String.ofList line) =
      if Text.hasInfix "FILE".toList path || Text.hasInfix "FILE".toList first then none
      else some ⟨Text.lower (Text.trim (String.ofList (c :: operation))),
        Text.trim (String.ofList ((path ++ " (mode".toList).takeWhile (· != ':'))),
        Text.contains (String.ofList line) "[ALERT]"⟩ := by
  have hspace : ' ' ∉ "FILE".toList := by decide
  have hblank : ∀ c ∈ "FILE".toList, isBlank c = false := by
    have hall : ("FILE".toList.all fun c => !isBlank c) = true := by decide
    exact fun c hc => by simpa using List.all_eq_true.mp hall c hc
  -- blanks at the end of the line do not matter
  have hholds : "FILE".toList <:+: entryText (c :: operation) path (dropRight isBlank (' ' :: first)) ↔
      "FILE".toList <:+: path ∨ "FILE".toList <:+: first := by
    rw [← List.nil_append (entryText _ _ _), infix_append_entryText_iff (by decide) (by decide) hop,
      Text.infix_dropRight_iff hblank, ← List.nil_append (' ' :: first), Text.infix_append_cons_iff hspace]
    simp
  subst hline
  split
  · next h =>
    rw [Bool.or_eq_true, Text.hasInfix_iff, Text.hasInfix_iff, ← hholds] at h
    exact ofLine?_eq_none (cutFrom_line hlead _) (Text.two_le_length_cutFrom (by decide) h)
  · next h =>
    rw [Bool.or_eq_true, Text.hasInfix_iff, Text.hasInfix_iff, ← hholds] at h
    obtain ⟨others, hcut⟩ := Text.exists_cutAt_append_cons ':' (' ' :: (path ++ " (mode".toList))
      (dropRight isBlank (dropRight isBlank (' ' :: first)))
    have hentry : cutFrom ":".toList 0 (trimList (entryText (c :: operation) path (dropRight isBlank (' ' :: first)))) =
        (c :: operation) :: (' ' :: (path ++ " (mode".toList).takeWhile (· != ':')) :: others := by
      rw [trimList_entryText hc, show ":".toList = [':'] from rfl, Text.cutFrom_singleton,
        Text.cutAt_append_cons hcolon, hcut]
      rfl
    rw [ofLine?_eq_some ((cutFrom_line hlead _).trans (by rw [Text.cutFrom_eq_singleton h])) hentry]
    simp only [Text.trim, String.toList_ofList, Text.trimList_cons_of_blank (by decide : isBlank ' ' = true)]

end Entry

/-! ## Calls -/

structure FileCall where
  now : Instant
  operation : String
  path : String
  mode : String

/-- What is read as the path: the text in front of the first colon, which may be the one behind the word mode. -/
def shownPath (path : String) : String := Text.trim (String.ofList ((path ++ " (mode").toList.takeWhile (· != ':')))

namespace FileCall

def record (c : FileCall) : FileOperation := FileLog.record c.now c.operation c.path c.mode

/-- The call names one of the operations, and a path of one line without blanks around it. -/
structure Regular (c : FileCall) : Prop where
  operation : c.operation ∈ ["read", "write", "delete", "open"]
  path_ne : c.path ≠ ""
  path_line : OneLine c.path.toList
  path_trim : Text.trim c.path = c.path

def modeLines (c : FileCall) : List (List Char) := storedLines (c.mode.toList ++ [')', '\n'])

/-- What is read from the line of the call, which ends where the first line of the mode does. -/
def shown? (c : FileCall) : Option LoggedOperation :=
  let mode := String.ofList (c.modeLines.headD [])
  if Text.contains c.path "FILE" || Text.contains mode "FILE" then none
  else some ⟨c.operation, shownPath c.path,
    isSensitive c.path || Text.contains c.path "[ALERT]" || Text.contains mode "[ALERT]"⟩

/-- What is read of the call: its line, and further lines of the mode on their own. -/
def readBack (c : FileCall) : List LoggedOperation :=
  c.shown?.toList ++ c.modeLines.tail.filterMap fun l => ofLine? (String.ofList l)

def recorded (c : FileCall) : LoggedOperation := ⟨c.operation, c.path, isSensitive c.path⟩

def level (c : FileCall) : String := if isSensitive c.path then "[ALERT]" else "[INFO]"

def lead (c : FileCall) : List Char := c.now.logText.toList ++ ']' :: ' ' :: c.level.toList

def upToMode (c : FileCall) : List Char :=
  '[' :: c.lead ++ ' ' :: ("FILE".toList ++ entryText (Text.upper c.operation).toList c.path.toList [' '])

variable {c : FileCall}

theorem toList_line (c : FileCall) : (line c.record).toList = c.upToMode ++ (c.mode.toList ++ [')', '\n']) := by
  have hline : line c.record = "[" ++ c.now.logText ++ "] " ++ c.level ++ " FILE " ++ Text.upper c.operation ++ ": " ++
      c.path ++ " (mode: " ++ c.mode ++ ")\n" := rfl
  simp [hline, upToMode, lead, entryText]

theorem exists_upper (h : c.Regular) : ∃ first rest, (Text.upper c.operation).toList = first :: rest ∧
    isBlank first = false ∧ ¬ "FILE".toList <:+: first :: rest ∧ ':' ∉ first :: rest ∧ '[' ∉ first :: rest ∧
    OneLine (first :: rest) ∧ Text.lower (Text.trim (String.ofList (first :: rest))) = c.operation := by
  have hop := h.operation
  simp only [List.mem_cons, List.not_mem_nil, or_false] at hop
  rcases hop with hop | hop | hop | hop
  · rw [hop]
    exact ⟨'R', "EAD".toList, by decide, by decide, by decide, by decide, by decide, by decide, by decide⟩
  · rw [hop]
    exact ⟨'W', "RITE".toList, by decide, by decide, by decide, by decide, by decide, by decide, by decide⟩
  · rw [hop]
    exact ⟨'D', "ELETE".toList, by decide, by decide, by decide, by decide, by decide, by decide, by decide⟩
  · rw [hop]
    exact ⟨'O', "PEN".toList, by decide, by decide, by decide, by decide, by decide, by decide, by decide⟩

theorem oneLine_upToMode (h : c.Regular) : OneLine c.upToMode := by
  obtain ⟨first, rest, hupper, -, -, -, -, hline, -⟩ := exists_upper h
  have hlevel : OneLine c.level.toList := by
    unfold level
    split <;> decide
  unfold upToMode lead entryText
  rw [hupper]
  refine .append (.cons (by decide) (.append Instant.oneLine_logText (.cons (by decide) (.cons (by decide) hlevel))))
    (.cons (by decide) (.append (by decide) (.cons (by decide) (.append hline (.cons (by decide) ?_)))))
  exact .append (.cons (by decide) (.append h.path_line (by decide))) (by decide)

theorem infix_lead_iff {x : List Char} {y : Char} (hy : y ∈ x) (hstamp : Instant.isStampChar y = false)
    (hbracket : y ≠ '[' ∧ y ≠ ']') (hspace : ' ' ∉ x) : x <:+: '[' :: c.lead ↔ x <:+: c.level.toList := by
  have hshape : '[' :: c.lead = '[' :: (c.now.logText.toList ++ [']']) ++ ' ' :: c.level.toList := by simp [lead]
  have hnot : ¬ x <:+: '[' :: (c.now.logText.toList ++ [']']) := by
    intro hi
    have hmem := hi.subset hy
    simp [hbracket, Instant.not_mem_logText hstamp] at hmem
  rw [hshape, Text.infix_append_cons_iff hspace]
  simp only [hnot, false_or]

/-- The line is marked as an alert if the path is sensitive, or if the mark stands in the path or the mode. -/
theorem contains_alert (h : c.Regular) (first : List Char) :
    Text.contains (String.ofList (c.upToMode ++ first)) "[ALERT]" =
      (isSensitive c.path || Text.contains c.path "[ALERT]" || Text.contains (String.ofList first) "[ALERT]") := by
  obtain ⟨_, _, hupper, -, -, -, hopen, -, -⟩ := exists_upper h
  have hspace : ' ' ∉ "[ALERT]".toList := by decide
  have hfile : ¬ "[ALERT]".toList <:+: "FILE".toList := by decide
  have hop : ¬ "[ALERT]".toList <:+: (Text.upper c.operation).toList := fun hi => hopen (hupper ▸ hi.subset (by decide))
  have hlead : "[ALERT]".toList <:+: '[' :: c.lead ↔ isSensitive c.path = true := by
    rw [infix_lead_iff (y := 'A') (by decide) (by decide) (by decide) hspace, level]
    split
    · next hs => simp [hs]
    · next hs => simpa [hs] using (by decide : ¬ "[ALERT]".toList <:+: "[INFO]".toList)
  have hshape : c.upToMode ++ first = '[' :: c.lead ++
      ' ' :: ("FILE".toList ++ entryText (Text.upper c.operation).toList c.path.toList ([] ++ ' ' :: first)) := by
    simp [upToMode, entryText]
  have hmode : "[ALERT]".toList <:+: [] ++ ' ' :: first ↔ "[ALERT]".toList <:+: first := by
    rw [Text.infix_append_cons_iff hspace]
    simp
  rw [Bool.eq_iff_iff, Bool.or_eq_true, Bool.or_eq_true, Text.contains_iff, Text.contains_iff, Text.contains_iff,
    String.toList_ofList (l := c.upToMode ++ first), String.toList_ofList (l := first), hshape,
    Text.infix_append_cons_iff hspace, infix_append_entryText_iff (by decide) (by decide) hop, hlead, hmode]
  simp only [hfile, false_or, or_assoc]

theorem ofLine?_call (h : c.Regular) {first : List Char} {others : List (List Char)}
    (hm : c.modeLines = first :: others) : ofLine? (String.ofList (c.upToMode ++ first)) = c.shown? := by
  obtain ⟨x, xs, hupper, hblank, hop, hcolon, -, -, hlower⟩ := exists_upper h
  have hlead : ¬ "FILE".toList <:+: '[' :: c.lead := by
    rw [infix_lead_iff (y := 'F') (by decide) (by decide) (by decide) (by decide), level]
    split <;> decide
  have hshape : c.upToMode ++ first =
      '[' :: c.lead ++ ' ' :: ("FILE".toList ++ entryText (x :: xs) c.path.toList (' ' :: first)) := by
    simp [upToMode, hupper, entryText]
  rw [ofLine?_line hlead hblank hop hcolon first hshape, hlower, contains_alert h]
  simp only [shown?, hm, List.headD_cons, shownPath, Text.contains, String.toList_ofList, String.toList_append]

end FileCall

/-! ## Logs -/

def storedRecords (s : List Char) : List LoggedOperation := (storedLines s).filterMap fun l => ofLine? (String.ofList l)

theorem storedRecords_append (s t : List Char) :
    storedRecords (s ++ '\n' :: t) = storedRecords (s ++ ['\n']) ++ storedRecords t := by
  obtain ⟨ls, hends, happend⟩ := Text.storedLines_ended s
  have hblank : ofLine? (String.ofList []) = none := rfl
  unfold storedRecords
  rw [hends, happend, List.filterMap_append, List.filterMap_append]
  simp [hblank]

theorem read_of_holds {d : Disk} {log text : String} (h : d.Holds log text) : read d log = storedRecords text.toList := by
  rcases h with hread | ⟨rfl, hmissing, -⟩
  · unfold FileLog.read Disk.readText
    rw [hread]
    simp only [Disk.textOf, ofText, Text.lines, storedRecords, storedLines, String.toList_ofList, List.filterMap_map,
      Function.comp_def]
  · obtain ⟨e, he⟩ := Disk.exists_error_of_missing hmissing
    unfold FileLog.read
    rw [he]
    rfl

def logAfter (d : Disk) (log : String) (calls : List FileCall) : Disk :=
  calls.foldl (fun d c => append d log c.record) d

theorem holds_logAfter {d : Disk} {log text : String} (h : d.Holds log text) (calls : List FileCall) :
    ∃ text', (logAfter d log calls).Holds log text' ∧
      text'.toList = text.toList ++ calls.flatMap fun c => (line c.record).toList := by
  induction calls generalizing d text with
  | nil => exact ⟨text, h, by simp⟩
  | cons c rest ih =>
    obtain ⟨d', hd, hholds⟩ := h.append (line c.record)
    have hstep : append d log c.record = d' := by simp only [append, hd]
    obtain ⟨text', hafter, htext⟩ := ih hholds
    refine ⟨text', ?_, ?_⟩
    · rw [logAfter, List.foldl_cons, hstep]
      exact hafter
    · rw [htext, String.toList_append, List.flatMap_cons, List.append_assoc]

theorem storedRecords_line {c : FileCall} (h : c.Regular) : storedRecords (line c.record).toList = c.readBack := by
  obtain ⟨first, others, hm⟩ := Text.exists_storedLines (c.mode.toList ++ [')', '\n'])
  unfold storedRecords FileCall.readBack
  rw [c.toList_line, Text.storedLines_append (FileCall.oneLine_upToMode h) hm, show c.modeLines = first :: others from hm,
    List.filterMap_cons, FileCall.ofLine?_call h hm, List.tail_cons]
  cases c.shown? <;> rfl

theorem storedRecords_calls {calls : List FileCall} (h : ∀ c ∈ calls, c.Regular) :
    storedRecords (calls.flatMap fun c => (line c.record).toList) = calls.flatMap FileCall.readBack := by
  induction calls with
  | nil => rfl
  | cons c rest ih =>
    have hended : (line c.record).toList = (c.upToMode ++ (c.mode.toList ++ [')'])) ++ ['\n'] := by
      rw [c.toList_line]
      simp
    rw [List.flatMap_cons, List.flatMap_cons, ← ih fun c hc => h c (List.mem_cons_of_mem _ hc),
      ← storedRecords_line (h c List.mem_cons_self), hended, List.append_assoc, List.singleton_append,
      storedRecords_append]

theorem read_logAfter {d : Disk} {log : String} (hd : d.Holds log "") {calls : List FileCall}
    (h : ∀ c ∈ calls, c.Regular) : read (logAfter d log calls) log = calls.flatMap FileCall.readBack := by
  obtain ⟨text, hholds, htext⟩ := holds_logAfter hd calls
  rw [read_of_holds hholds, htext, ← storedRecords_calls h]
  rfl

/-! ## Paths that are lost -/

/-- No path is read as it was written: what is read holds no colon, and the start of the mode if the path holds none. -/
theorem shownPath_ne {c : FileCall} (h : c.Regular) : shownPath c.path ≠ c.path := by
  intro heq
  have hlist : trimList ((c.path.toList ++ " (mode".toList).takeWhile (· != ':')) = c.path.toList := by
    rw [← String.toList_inj] at heq
    simpa only [shownPath, Text.trim, String.toList_ofList, String.toList_append] using heq
  by_cases hcolon : ':' ∈ c.path.toList
  · rw [← hlist] at hcolon
    have hkept := List.mem_takeWhile_imp ((Text.trimList_isInfix _).subset hcolon)
    simp at hkept
  · have hall : (c.path.toList ++ " (mode".toList).takeWhile (· != ':') = c.path.toList ++ " (mode".toList := by
      rw [List.takeWhile_eq_self_iff]
      intro x hx
      rcases List.mem_append.mp hx with hx | hx
      · exact bne_iff_ne.mpr fun e => hcolon (e ▸ hx)
      · exact bne_iff_ne.mpr fun e => absurd (e ▸ hx) (by decide)
    rw [hall] at hlist
    cases hp : c.path.toList with
    | nil => exact h.path_ne (String.toList_eq_nil_iff.mp hp)
    | cons x rest =>
      -- the path starts with no blank, so that nothing is trimmed
      have hx : isBlank x = false := by
        have htrim : trimList (x :: rest) = x :: rest := by
          have := congrArg String.toList h.path_trim
          rwa [Text.trim, String.toList_ofList, hp] at this
        cases hb : isBlank x with
        | false => rfl
        | true =>
          rw [Text.trimList_cons_of_blank hb] at htrim
          have hle := (Text.trimList_isInfix rest).length_le
          rw [htrim] at hle
          exact absurd hle (Nat.not_succ_le_self _)
      have hshape : x :: rest ++ " (mode".toList = x :: ((rest ++ " (mod".toList) ++ 'e' :: []) := by simp
      rw [hp, hshape, Text.trimList_between hx (by decide)] at hlist
      have hlength := congrArg List.length hlist
      simp at hlength

theorem readBack_of_oneLine {c : FileCall} (hm : OneLine c.mode.toList) : c.readBack = c.shown?.toList := by
  have hline : OneLine (c.mode.toList ++ [')']) := hm.append (by decide)
  have hlines : c.modeLines = [c.mode.toList ++ [')'], []] := by
    have hend : storedLines ['\n'] = [[], []] := rfl
    have happend := Text.storedLines_append hline hend
    rw [List.append_nil, List.append_assoc] at happend
    exact happend
  have hblank : ofLine? (String.ofList []) = none := rfl
  unfold FileCall.readBack
  rw [hlines]
  simp [hblank]

theorem path_of_shown? {c : FileCall} {o : LoggedOperation} (h : c.shown? = some o) : o.path = shownPath c.path := by
  unfold FileCall.shown? at h
  dsimp only at h
  split at h
  · cases h
  · cases h
    rfl

theorem length_flatMap_readBack_le {calls : List FileCall} (hm : ∀ c ∈ calls, OneLine c.mode.toList) :
    (calls.flatMap FileCall.readBack).length ≤ calls.length := by
  induction calls with
  | nil => exact Nat.le_refl _
  | cons c rest ih =>
    have ih := ih fun c hc => hm c (List.mem_cons_of_mem _ hc)
    rw [List.flatMap_cons, List.length_append, readBack_of_oneLine (hm c List.mem_cons_self), List.length_cons]
    have hone : c.shown?.toList.length ≤ 1 := Option.length_toList_le
    omega

/-- If modes have one line, the log is read as it was recorded only if it is empty. -/
theorem readBack_eq_recorded_iff {calls : List FileCall} (h : ∀ c ∈ calls, c.Regular)
    (hm : ∀ c ∈ calls, OneLine c.mode.toList) :
    calls.flatMap FileCall.readBack = calls.map FileCall.recorded ↔ calls = [] := by
  refine ⟨fun heq => ?_, fun hnil => by rw [hnil]; rfl⟩
  cases calls with
  | nil => rfl
  | cons c rest =>
    rw [List.flatMap_cons, readBack_of_oneLine (hm c List.mem_cons_self), List.map_cons] at heq
    cases hshown : c.shown? with
    | none =>
      -- an operation is missing, and the other calls cannot make up for it
      have hle := length_flatMap_readBack_le fun c hc => hm c (List.mem_cons_of_mem _ hc)
      have hlength := congrArg List.length heq
      rw [hshown, Option.toList_none, List.nil_append, List.length_cons, List.length_map] at hlength
      omega
    | some o =>
      rw [hshown] at heq
      have ho : o = c.recorded := (List.cons.inj heq).1
      exact absurd ((path_of_shown? hshown).symm.trans (congrArg LoggedOperation.path ho))
        (shownPath_ne (h c List.mem_cons_self))

/-- The log of calls is read as `readBack` says, and no path comes back. So if modes have one line, the operations come
back as they were recorded only if there are none. -/
theorem records_read_back {d : Disk} {log : String} (hd : d.Holds log "") {calls : List FileCall}
    (h : ∀ c ∈ calls, c.Regular) :
    read (logAfter d log calls) log = calls.flatMap FileCall.readBack ∧
    (∀ c ∈ calls, shownPath c.path ≠ c.path) ∧
    ((∀ c ∈ calls, OneLine c.mode.toList) →
      (read (logAfter d log calls) log = calls.map FileCall.recorded ↔ calls = [])) := by
  refine ⟨read_logAfter hd h, fun c hc => shownPath_ne (h c hc), fun hm => ?_⟩
  rw [read_logAfter hd h]
  exact readBack_eq_recorded_iff h hm

namespace TwoPaths

def now : Instant := ⟨2024, 1, 2, 3, 4, 5, 678000⟩

def calls : List FileCall := [⟨now, "read", "/tmp/x", "r"⟩, ⟨now, "open", "C:\\a.txt", "w"⟩]

theorem regular_of_mem {c : FileCall} (hc : c ∈ calls) : c.Regular := by
  simp only [calls, List.mem_cons, List.not_mem_nil, or_false] at hc
  rcases hc with rfl | rfl
  · exact ⟨by decide, by decide, by decide, by decide⟩
  · exact ⟨by decide, by decide, by decide, by decide⟩

theorem holds_empty : Disk.empty.Holds "ops.log" "" := .inr ⟨rfl, by decide, by decide⟩

theorem two_paths_read : read (logAfter .empty "ops.log" calls) "ops.log" =
    [⟨"read", "/tmp/x (mode", false⟩, ⟨"open", "C", false⟩] :=
  (records_read_back holds_empty fun _ => regular_of_mem).1.trans (by decide)

theorem paths_not_read_back : ¬ ∀ (d : Disk) (log : String) (calls : List FileCall), d.Holds log "" →
    (∀ c ∈ calls, c.Regular) → read (logAfter d log calls) log = calls.map FileCall.recorded := by
  intro hall
  have hread := hall .empty "ops.log" calls holds_empty fun _ => regular_of_mem
  rw [read_logAfter holds_empty fun _ => regular_of_mem,
    readBack_eq_recorded_iff (fun _ => regular_of_mem) (by decide)] at hread
  cases hread

end TwoPaths

end ThreatScan.FileLog
