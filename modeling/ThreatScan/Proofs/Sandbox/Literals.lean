import ThreatScan.Proofs.Text.Stored
import ThreatScan.Sandbox.Script
/-!
The paths in the script of a sandbox.

The script holds the paths of the target and of the log between raw quotes, just as they are. A raw text ends at the first quote
that no backslash stands in front of, where a backslash also takes the character behind it (`RawBody`, `rawText?`). So a path is
read back if and only if it is such a text itself (`readBack_iff`). Otherwise the text ends at a quote inside the path, and what
stands behind that quote is read as a part of the program, or a backslash at the end of the path takes the closing quote, and the
line ends within the text (`rawText?_of_not_readBack`).
-/
namespace ThreatScan.Sandbox

open Text (OneLine)

/-! ## Raw texts -/

/-- Reads a raw text on one line, from behind the opening quote: the text, and what follows the closing quote. A backslash and
the character behind it always belong to the text. -/
def rawBody? (mark : Char) : List Char → Option (List Char × List Char)
  | [] => none
  | '\\' :: c :: rest => (rawBody? mark rest).map fun p => ('\\' :: c :: p.1, p.2)
  | c :: rest =>
    if c = mark then some ([], rest)
    else if c = '\n' ∨ c = '\r' then none
    else (rawBody? mark rest).map fun p => (c :: p.1, p.2)

/-- Reads a raw text of several lines, up to the next three quotes. -/
def rawLines? (mark : Char) : List Char → Option (List Char × List Char)
  | [] => none
  | '\\' :: c :: rest => (rawLines? mark rest).map fun p => ('\\' :: c :: p.1, p.2)
  | c :: rest =>
    if [mark, mark, mark].isPrefixOf (c :: rest) then some ([], rest.drop 2)
    else (rawLines? mark rest).map fun p => (c :: p.1, p.2)

/-- Reads a raw text with its quotes, one or three of either sort. -/
def rawText? : List Char → Option (List Char × List Char)
  | 'r' :: mark :: rest =>
    if mark = '\'' ∨ mark = '"' then
      if [mark, mark].isPrefixOf rest then rawLines? mark (rest.drop 2) else rawBody? mark rest
    else none
  | _ => none

/-- What can stand between two quotes: pairs of a backslash and any character, and other characters than the quote. -/
inductive RawBody (mark : Char) : List Char → Prop
  | nil : RawBody mark []
  | plain {c : Char} {s : List Char} (hc : c ≠ '\\') (hm : c ≠ mark) (hs : RawBody mark s) : RawBody mark (c :: s)
  | pair {c : Char} {s : List Char} (hs : RawBody mark s) : RawBody mark ('\\' :: c :: s)

section RawBody
variable {mark : Char} {s v rest : List Char}

theorem RawBody.of_not_mem (hb : '\\' ∉ s) (hm : mark ∉ s) : RawBody mark s := by
  induction s with
  | nil => exact .nil
  | cons c s ih =>
    rw [List.mem_cons, not_or] at hb hm
    exact .plain (Ne.symm hb.1) (Ne.symm hm.1) (ih hb.2 hm.2)

theorem RawBody.rawBody?_append (h : RawBody mark s) (hs : OneLine s) (rest : List Char) :
    rawBody? mark (s ++ rest) = (rawBody? mark rest).map fun p => (s ++ p.1, p.2) := by
  induction h with
  | nil => simp
  | @plain c s hc hm _ ih =>
    have hline : ¬ (c = '\n' ∨ c = '\r') := by
      rintro (rfl | rfl)
      · exact hs.1 List.mem_cons_self
      · exact hs.2 List.mem_cons_self
    have hrest := ih ⟨List.not_mem_of_not_mem_cons hs.1, List.not_mem_of_not_mem_cons hs.2⟩
    rw [List.cons_append, rawBody?, if_neg hm, if_neg hline, hrest, Option.map_map]
    · rfl
    · rintro d t rfl -
      exact hc rfl
  | @pair c s _ ih =>
    have hrest := ih ⟨fun h => hs.1 (by simp [h]), fun h => hs.2 (by simp [h])⟩
    rw [List.cons_append, List.cons_append, rawBody?, hrest, Option.map_map]
    rfl

theorem RawBody.rawBody?_close (h : RawBody mark s) (hmark : mark ≠ '\\') (hs : OneLine s) :
    rawBody? mark (s ++ mark :: rest) = some (s, rest) := by
  rw [h.rawBody?_append hs]
  simp [rawBody?, hmark]

/-- A backslash in front of the closing quote takes it, and the text goes on. -/
theorem RawBody.rawBody?_backslash (h : RawBody mark s) (hs : OneLine s) (hrest : rawBody? mark rest = none) :
    rawBody? mark (s ++ '\\' :: mark :: rest) = none := by
  rw [h.rawBody?_append hs, rawBody?, hrest]
  rfl

theorem rawBody_of_rawBody? (h : rawBody? mark s = some (v, rest)) : RawBody mark v := by
  fun_induction rawBody? mark s generalizing v with
  | case1 => cases h
  | case2 c s ih =>
    obtain ⟨⟨v', r⟩, hread, heq⟩ := Option.map_eq_some_iff.mp h
    cases heq
    exact .pair (ih hread)
  | case3 s =>
    cases h
    exact .nil
  | case4 => cases h
  | case5 c s hpair hm hline ih =>
    obtain ⟨⟨v', r⟩, hread, heq⟩ := Option.map_eq_some_iff.mp h
    cases heq
    refine .plain ?_ hm (ih hread)
    rintro rfl
    -- a backslash without a character behind it is not read
    cases s with
    | nil => cases hread
    | cons d s => exact hpair d s rfl rfl

/-- A text that cannot stand between quotes has a quote in it that ends it, or a backslash at its end. -/
theorem rawBody_or (mark : Char) (hs : OneLine s) : RawBody mark s ∨
    (∃ a b, s = a ++ mark :: b ∧ RawBody mark a) ∨ ∃ a, s = a ++ ['\\'] ∧ RawBody mark a := by
  fun_induction rawBody? mark s with
  | case1 => exact .inl .nil
  | case2 c s ih =>
    rcases ih ⟨fun h => hs.1 (by simp [h]), fun h => hs.2 (by simp [h])⟩ with h | ⟨a, b, rfl, ha⟩ | ⟨a, rfl, ha⟩
    · exact .inl (.pair h)
    · exact .inr (.inl ⟨'\\' :: c :: a, b, rfl, .pair ha⟩)
    · exact .inr (.inr ⟨'\\' :: c :: a, rfl, .pair ha⟩)
  | case3 s => exact .inr (.inl ⟨[], s, rfl, .nil⟩)
  | case4 c s _ _ hline =>
    rcases hline with rfl | rfl
    · exact absurd List.mem_cons_self hs.1
    · exact absurd List.mem_cons_self hs.2
  | case5 c s hpair hm _ ih =>
    by_cases hc : c = '\\'
    · -- a backslash with a character behind it is a pair, so this one is the last character
      subst hc
      cases s with
      | nil => exact .inr (.inr ⟨[], rfl, .nil⟩)
      | cons d s => exact absurd rfl (hpair d s rfl)
    · rcases ih ⟨fun h => hs.1 (by simp [h]), fun h => hs.2 (by simp [h])⟩ with h | ⟨a, b, rfl, ha⟩ | ⟨a, rfl, ha⟩
      · exact .inl (.plain hc hm h)
      · exact .inr (.inl ⟨c :: a, b, rfl, .plain hc hm ha⟩)
      · exact .inr (.inr ⟨c :: a, rfl, .plain hc hm ha⟩)

end RawBody

/-! ## The literal of a path -/

/-- The literal of the path, with a text behind it, is read as the path, and reading ends where that text begins. -/
def ReadBack (path : String) (behind : List Char) : Prop :=
  rawText? ((rawLiteral path).toList ++ behind) = some (path.toList, behind)

section Literal
variable {path : String} {behind : List Char} (hslash : Path.isAbsolute path = true)
include hslash

/-- An absolute path does not begin with quotes, so its literal is a text on one line. -/
theorem rawText?_rawLiteral : rawText? ((rawLiteral path).toList ++ behind) = rawBody? '\'' (path.toList ++ '\'' :: behind) := by
  have hstart : ['/'] <+: path.toList := List.isPrefixOf_iff_prefix.mp hslash
  obtain ⟨s, hs⟩ := hstart
  have hliteral : (rawLiteral path).toList ++ behind = 'r' :: '\'' :: (path.toList ++ '\'' :: behind) := by
    simp [rawLiteral]
  rw [hliteral, ← hs]
  rfl

variable (hline : OneLine path.toList)
include hline

theorem readBack_iff : ReadBack path behind ↔ RawBody '\'' path.toList := by
  rw [ReadBack, rawText?_rawLiteral hslash]
  constructor
  · exact rawBody_of_rawBody?
  · exact fun h => h.rawBody?_close (by decide) hline

/-- A path that is not read back is cut off at a quote, with the rest of it read as a part of the program, or its text does
not come to an end. -/
theorem rawText?_of_not_readBack (hbehind : rawBody? '\'' behind = none) (h : ¬ ReadBack path behind) :
    (∃ a b, path.toList = a ++ '\'' :: b ∧
      rawText? ((rawLiteral path).toList ++ behind) = some (a, b ++ '\'' :: behind)) ∨
    rawText? ((rawLiteral path).toList ++ behind) = none := by
  rw [readBack_iff hslash hline] at h
  rw [rawText?_rawLiteral hslash]
  rcases (rawBody_or '\'' hline).resolve_left h with ⟨a, b, hab, ha⟩ | ⟨a, ha', ha⟩
  · left
    have hcut : OneLine a := ⟨fun hm => hline.1 (by simp [hab, hm]), fun hm => hline.2 (by simp [hab, hm])⟩
    refine ⟨a, b, hab, ?_⟩
    rw [hab, List.append_assoc]
    exact ha.rawBody?_close (by decide) hcut
  · right
    have hcut : OneLine a := ⟨fun hm => hline.1 (by simp [ha', hm]), fun hm => hline.2 (by simp [ha', hm])⟩
    rw [ha', List.append_assoc]
    exact ha.rawBody?_backslash hcut hbehind

end Literal

/-! ## The script around its literals -/

def ended (lines : List String) : List Char := lines.flatMap fun line => line.toList ++ ['\n']

def begun (lines : List String) : List Char := lines.flatMap fun line => '\n' :: line.toList

theorem toList_join_around (before after : List String) (line : String) :
    (Text.join "\n" (before ++ line :: after)).toList = ended before ++ (line.toList ++ begun after) := by
  have hsep : "\n".toList = ['\n'] := by decide
  rw [Text.join, String.toList_ofList, List.map_append, List.map_cons, Text.joinWith_append_cons, hsep]
  simp [ended, begun, List.flatMap_map]

def beforeLog : List Char := ended ((scriptLines Path.work "" "" []).take 14) ++ "install_hooks(".toList

def behindLog (target : String) (args : List String) : List Char :=
  ')' :: begun ((scriptLines Path.work (Path.absolute target) "" args).drop 15)

def beforeTarget (log : String) : List Char :=
  ended ((scriptLines Path.work "" (Path.absolute log) []).take 17) ++ "target_file = ".toList

def behindTarget (args : List String) : List Char := begun ((scriptLines Path.work "" "" args).drop 18)

theorem script_around_log (target log : String) (args : List String) : (script target log args).toList =
    beforeLog ++ ((rawLiteral (Path.absolute log)).toList ++ behindLog target args) := by
  have hlines : scriptLines Path.work (Path.absolute target) (Path.absolute log) args =
      (scriptLines Path.work "" "" []).take 14 ++ ("install_hooks(" ++ rawLiteral (Path.absolute log) ++ ")") ::
        (scriptLines Path.work (Path.absolute target) "" args).drop 15 := rfl
  have hclose : ")".toList = [')'] := by decide
  rw [script, hlines, toList_join_around, beforeLog, behindLog, String.toList_append, String.toList_append, hclose]
  simp

theorem script_around_target (target log : String) (args : List String) : (script target log args).toList =
    beforeTarget log ++ ((rawLiteral (Path.absolute target)).toList ++ behindTarget args) := by
  have hlines : scriptLines Path.work (Path.absolute target) (Path.absolute log) args =
      (scriptLines Path.work "" (Path.absolute log) []).take 17 ++ ("target_file = " ++ rawLiteral (Path.absolute target)) ::
        (scriptLines Path.work "" "" args).drop 18 := rfl
  rw [script, hlines, toList_join_around, beforeTarget, behindTarget, String.toList_append]
  simp

theorem isAbsolute_absolute (path : String) : Path.isAbsolute (Path.absolute path) = true := by
  have hstart : ∃ s, (Path.leadingSlashes (Path.join Path.work path)).toList = '/' :: s := by
    rw [Path.leadingSlashes]
    split
    · exact ⟨['/'], by decide⟩
    · exact ⟨[], by decide⟩
  obtain ⟨s, hs⟩ := hstart
  have hslash : "/".toList = ['/'] := by decide
  rw [Path.isAbsolute, Text.startsWith, Path.absolute, String.toList_append, hs, hslash]
  rfl

/-- The line ends behind the literal of the log, and at once behind that of the target. -/
theorem rawBody?_behindLog (target : String) (args : List String) : rawBody? '\'' (behindLog target args) = none := rfl

theorem rawBody?_behindTarget (args : List String) : rawBody? '\'' (behindTarget args) = none := rfl

/-- A text holds the literal of the path between two others. The literal is read back if and only if the path can stand between
quotes; otherwise it is cut off at a quote, and the rest of the path is read as a part of the program, or it does not come to an
end. -/
structure Pasted (text : List Char) (path : String) (before behind : List Char) : Prop where
  text_eq : text = before ++ ((rawLiteral path).toList ++ behind)
  readBack_iff : ReadBack path behind ↔ RawBody '\'' path.toList
  otherwise : ¬ ReadBack path behind →
    (∃ a b, path.toList = a ++ '\'' :: b ∧ rawText? ((rawLiteral path).toList ++ behind) = some (a, b ++ '\'' :: behind)) ∨
    rawText? ((rawLiteral path).toList ++ behind) = none

/-- The script holds the literals of the log and of the target, each in a program text that does not depend on its path. -/
theorem script_literals_read_back_iff (target log : String) (args : List String)
    (htarget : OneLine (Path.absolute target).toList) (hlog : OneLine (Path.absolute log).toList) :
    Pasted (script target log args).toList (Path.absolute log) beforeLog (behindLog target args) ∧
    Pasted (script target log args).toList (Path.absolute target) (beforeTarget log) (behindTarget args) where
  left := {
    text_eq := script_around_log target log args
    readBack_iff := readBack_iff (isAbsolute_absolute log) hlog
    otherwise := rawText?_of_not_readBack (isAbsolute_absolute log) hlog (rawBody?_behindLog target args) }
  right := {
    text_eq := script_around_target target log args
    readBack_iff := readBack_iff (isAbsolute_absolute target) htarget
    otherwise := rawText?_of_not_readBack (isAbsolute_absolute target) htarget (rawBody?_behindTarget args) }

namespace QuotedName

theorem plain_names_read_back : OneLine (Path.absolute "/my app.py").toList ∧ OneLine (Path.absolute "/x.log").toList ∧
    ReadBack (Path.absolute "/my app.py") (behindTarget ["-v"]) ∧
    ReadBack (Path.absolute "/x.log") (behindLog "/my app.py" ["-v"]) := by
  have htarget : OneLine (Path.absolute "/my app.py").toList := by decide
  have hlog : OneLine (Path.absolute "/x.log").toList := by decide
  obtain ⟨hlogs, htargets⟩ := script_literals_read_back_iff "/my app.py" "/x.log" ["-v"] htarget hlog
  exact ⟨htarget, hlog, htargets.readBack_iff.mpr (.of_not_mem (by decide) (by decide)),
    hlogs.readBack_iff.mpr (.of_not_mem (by decide) (by decide))⟩

/-- The quote in the name of a file ends the literal, and what stands behind it in the name becomes a part of the program. -/
theorem rest_of_name_in_program : OneLine (Path.absolute "/it's.py").toList ∧
    rawText? ((rawLiteral (Path.absolute "/it's.py")).toList ++ behindTarget []) =
      some ((Path.absolute "/it").toList, "s.py'".toList ++ behindTarget []) ∧
    ¬ ReadBack (Path.absolute "/it's.py") (behindTarget []) := by
  have hname : (Path.absolute "/it's.py").toList = (Path.absolute "/it").toList ++ '\'' :: "s.py".toList := by decide
  have hread : rawText? ((rawLiteral (Path.absolute "/it's.py")).toList ++ behindTarget []) =
      some ((Path.absolute "/it").toList, "s.py'".toList ++ behindTarget []) := by
    rw [rawText?_rawLiteral (isAbsolute_absolute _), hname, List.append_assoc]
    exact (RawBody.of_not_mem (by decide) (by decide)).rawBody?_close (by decide) (by decide)
  refine ⟨by decide, hread, fun hback => ?_⟩
  rw [ReadBack, hread] at hback
  have hsame : (Path.absolute "/it").toList = (Path.absolute "/it's.py").toList := congrArg Prod.fst (Option.some.inj hback)
  exact absurd hsame (by decide)

end QuotedName

end ThreatScan.Sandbox
