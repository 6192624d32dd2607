import ThreatScan.Outline.GoFile
import ThreatScan.Outline.JavaFile
/-!
Where the block of a function or a class ends.

A block ends on the first line, from that of its declaration on, where as many braces are closed as are opened
(`EndsFunction`, `EndsClass`). The outline searches only from the line behind the declaration (`firstLine_closing`). A function
is taken to have one open brace there, so the end that is found is the right one if its line opens one brace more than it
closes; otherwise the two agree only where nothing is found and nothing is to be found (`firstLine_below_iff`). A class is
counted with the braces of its own line, but not asked whether one has been opened at all, nor whether they are closed again on
that line (`firstLine_opened_iff`).
-/
namespace ThreatScan

/-! ## Braces on several lines -/

def balance : List String → Int
  | [] => 0
  | line :: rest => braceBalance line + balance rest

/-- The lines from one number to another, both included. The first line has the number one. -/
def between (lines : List String) (i j : Nat) : List String := (lines.drop (i - 1)).take (j + 1 - i)

def OpensBrace (lines : List String) : Prop := ∃ line ∈ lines, '\x7b' ∈ line.toList

instance (lines : List String) : Decidable (OpensBrace lines) :=
  inferInstanceAs (Decidable (∃ line ∈ lines, '\x7b' ∈ line.toList))

section Between
variable {lines after : List String} {line : String} {k : Nat} (hdrop : lines.drop k = line :: after)
include hdrop

theorem length_of_drop : lines.length = k + 1 + after.length := by
  have hlength := congrArg List.length hdrop
  rw [List.length_drop, List.length_cons] at hlength
  omega

theorem balance_between (i : Nat) :
    balance (between lines (k + 1) (k + 1 + i)) = braceBalance line + balance (after.take i) := by
  have hcount : k + 1 + i + 1 - (k + 1) = i + 1 := by omega
  rw [between, Nat.add_sub_cancel, hdrop, hcount, List.take_succ_cons, balance]

theorem balance_line : balance (between lines (k + 1) (k + 1)) = braceBalance line :=
  (balance_between hdrop 0).trans (Int.add_zero _)

end Between

/-! ## The first line with a property -/

/-- The first of the lines `i` to `n` with the property is `e`; if none of them has it, `e` is `i`. -/
def FirstLine (P : Nat → Prop) (i n e : Nat) : Prop :=
  (i ≤ e ∧ e ≤ n ∧ P e ∧ ∀ j, j < e → i ≤ j → ¬ P j) ∨ (e = i ∧ ∀ j, j ≤ n → i ≤ j → ¬ P j)

instance (P : Nat → Prop) [DecidablePred P] (i n e : Nat) : Decidable (FirstLine P i n e) :=
  inferInstanceAs (Decidable ((i ≤ e ∧ e ≤ n ∧ P e ∧ ∀ j, j < e → i ≤ j → ¬ P j) ∨ (e = i ∧ ∀ j, j ≤ n → i ≤ j → ¬ P j)))

theorem FirstLine.unique {P : Nat → Prop} {i n e e' : Nat} (h : FirstLine P i n e) (h' : FirstLine P i n e') : e = e' := by
  rcases h with ⟨hi, hn, hP, hbefore⟩ | ⟨rfl, hnone⟩
  · rcases h' with ⟨hi', hn', hP', hbefore'⟩ | ⟨rfl, hnone'⟩
    · have hge : ¬ e' < e := fun hlt => hbefore e' hlt hi' hP'
      have hle : ¬ e < e' := fun hlt => hbefore' e hlt hi hP
      omega
    · exact absurd hP (hnone' e hn hi)
  · rcases h' with ⟨hi', hn', hP', -⟩ | ⟨rfl, -⟩
    · exact absurd hP' (hnone e' hn' hi')
    · rfl

theorem FirstLine.congr {P Q : Nat → Prop} {i n e : Nat} (hPQ : ∀ j, i ≤ j → (P j ↔ Q j)) (h : FirstLine P i n e) :
    FirstLine Q i n e := by
  rcases h with ⟨hi, hn, hP, hbefore⟩ | ⟨he, hnone⟩
  · exact .inl ⟨hi, hn, (hPQ e hi).mp hP, fun j hlt hj hQ => hbefore j hlt hj ((hPQ j hj).mpr hQ)⟩
  · exact .inr ⟨he, fun j hle hj hQ => hnone j hle hj ((hPQ j hj).mpr hQ)⟩

theorem closingLine?_eq (b : Int) (n : Nat) (lines : List String) : closingLine? b n lines =
    ((List.range lines.length).find? fun k => b + balance (lines.take (k + 1)) = 0).map (n + ·) := by
  induction lines generalizing b n with
  | nil => rfl
  | cons line rest ih =>
    rw [closingLine?, List.length_cons, List.range_succ_eq_map, List.find?_cons]
    by_cases hzero : b + braceBalance line = 0
    · simp [balance, hzero]
    · have hnext : ∀ k, n + 1 + k = n + (k + 1) := fun k => by omega
      simp [balance, hzero, ih, List.find?_map, Function.comp_def, Int.add_assoc, hnext]

/-- The end that is found is the first line behind the declaration where the lines since then make up for the braces that are
taken to be open. -/
theorem firstLine_closing {lines after : List String} {line : String} {k : Nat} (hdrop : lines.drop k = line :: after)
    (b : Int) : FirstLine
      (fun j => k + 1 < j ∧ b + balance (between lines (k + 1) j) = balance (between lines (k + 1) (k + 1)))
      (k + 1) lines.length ((closingLine? b (k + 2) after).getD (k + 1)) := by
  have hlength := length_of_drop hdrop
  have hsum : ∀ i, b + balance (between lines (k + 1) (k + 1 + (i + 1))) = balance (between lines (k + 1) (k + 1)) ↔
      b + balance (after.take (i + 1)) = 0 := by
    intro i
    rw [balance_line hdrop, balance_between hdrop]
    omega
  rw [closingLine?_eq]
  cases hfind : (List.range after.length).find? fun i => b + balance (after.take (i + 1)) = 0 with
  | some m =>
    obtain ⟨hzero, hm, hbefore⟩ := List.find?_range_eq_some.mp hfind
    have hend : k + 2 + m = k + 1 + (m + 1) := by omega
    rw [Option.map_some, Option.getD_some, hend]
    rw [List.mem_range] at hm
    refine .inl ⟨by omega, by omega, ⟨by omega, (hsum m).mpr (by simpa using hzero)⟩, ?_⟩
    rintro j hj - ⟨hbehind, hj'⟩
    obtain ⟨i, rfl⟩ := Nat.exists_eq_add_of_lt hbehind
    have hopen := hbefore i (by omega)
    simp [(hsum i).mp hj'] at hopen
  | none =>
    refine .inr ⟨rfl, ?_⟩
    rintro j hj - ⟨hbehind, hj'⟩
    obtain ⟨i, rfl⟩ := Nat.exists_eq_add_of_lt hbehind
    have hopen := List.find?_range_eq_none.mp hfind i (by omega)
    simp [(hsum i).mp hj'] at hopen

/-! ## The end that is found and the end of the block -/

/-- A search for the line that closes one brace more than the first one leaves open finds the end of the block if one is open
there. Otherwise it does not count as the braces do, and agrees with them only in finding nothing. -/
theorem firstLine_below_iff {T : Nat → Int} {i n e : Nat} (hi : i ≤ n) (he : FirstLine (fun j => i < j ∧ 1 + T j = T i) i n e) :
    FirstLine (fun j => T j = 0) i n e ↔
      T i = 1 ∨ (∀ j, i < j → j ≤ n → 1 + T j ≠ T i) ∧ (T i = 0 ∨ ∀ j, i < j → j ≤ n → T j ≠ 0) := by
  by_cases hone : T i = 1
  · refine iff_of_true (he.congr fun j hj => ?_) (.inl hone)
    rcases Nat.eq_or_lt_of_le hj with rfl | hlt
    · omega
    · omega
  · rw [or_iff_right hone]
    constructor
    · intro hends
      rcases he with ⟨-, hn, ⟨hlt, hsum⟩, -⟩ | ⟨rfl, hnone⟩
      · -- the search stops behind the declaration, where the braces are not balanced
        rcases hends with ⟨-, -, hzero, -⟩ | ⟨rfl, -⟩
        · omega
        · omega
      · refine ⟨fun j hlt hle hsum => hnone j hle (Nat.le_of_lt hlt) ⟨hlt, hsum⟩, ?_⟩
        rcases hends with ⟨-, -, hzero, -⟩ | ⟨-, hnone⟩
        · exact .inl hzero
        · exact .inr fun j hlt hle => hnone j hle (Nat.le_of_lt hlt)
    · rintro ⟨hnone, hself⟩
      obtain rfl : e = i := by
        rcases he with ⟨-, hn, ⟨hlt, hsum⟩, -⟩ | ⟨rfl, -⟩
        · exact absurd hsum (hnone e hlt hn)
        · rfl
      by_cases hzero : T e = 0
      · exact .inl ⟨Nat.le_refl e, hi, hzero, fun j hlt hj => absurd hlt (Nat.not_lt.mpr hj)⟩
      · refine .inr ⟨rfl, fun j hle hj => ?_⟩
        rcases Nat.eq_or_lt_of_le hj with rfl | hlt
        · exact hzero
        · exact hself.resolve_left hzero j hlt hle

/-- A search for balanced braces behind the declaration finds the end of the block unless it stops before a brace is opened, or
goes on behind a declaration that closes its braces itself. -/
theorem firstLine_opened_iff (Open : Nat → Prop) {Zero : Nat → Prop} {i n e : Nat} (hi : i ≤ n)
    (he : FirstLine (fun j => i < j ∧ Zero j) i n e) : FirstLine (fun j => Open j ∧ Zero j) i n e ↔
      ∀ j, i < j → j ≤ n → Zero j → (∀ k, i < k → k < j → ¬ Zero k) → Open j ∧ ¬ (Open i ∧ Zero i) := by
  constructor
  · intro hends j hlt hle hzero hbefore
    have hfirst : FirstLine (fun j => i < j ∧ Zero j) i n j :=
      .inl ⟨Nat.le_of_lt hlt, hle, ⟨hlt, hzero⟩, fun k hk _ hboth => hbefore k hboth.1 hk hboth.2⟩
    obtain rfl := he.unique hfirst
    rcases hends with ⟨-, -, ⟨hopen, -⟩, hnone⟩ | ⟨rfl, -⟩
    · exact ⟨hopen, hnone i hlt (Nat.le_refl i)⟩
    · exact absurd hlt (Nat.lt_irrefl e)
  · intro hstop
    rcases he with ⟨hi', hn, ⟨hlt, hzero⟩, hbefore⟩ | ⟨rfl, hnone⟩
    · obtain ⟨hopen, hself⟩ := hstop e hlt hn hzero fun k hk hke hz => hbefore k hke (Nat.le_of_lt hk) ⟨hk, hz⟩
      refine .inl ⟨hi', hn, ⟨hopen, hzero⟩, fun k hke hk hboth => ?_⟩
      rcases Nat.eq_or_lt_of_le hk with rfl | hik
      · exact hself hboth
      · exact hbefore k hke hk ⟨hik, hboth.2⟩
    · by_cases hself : Open e ∧ Zero e
      · exact .inl ⟨Nat.le_refl e, hi, hself, fun j hlt hj => absurd hlt (Nat.not_lt.mpr hj)⟩
      · refine .inr ⟨rfl, fun j hle hj hboth => ?_⟩
        rcases Nat.eq_or_lt_of_le hj with rfl | hlt
        · exact hself hboth
        · exact hnone j hle hj ⟨hlt, hboth.2⟩

/-! ## The blocks of an outline -/

namespace Block

def openAt (b : Block) (lines : List String) (j : Nat) : Int := balance (between lines b.startLine j)

/-- The block ends on the first line with the property, from its declaration on, or on that line if there is none. -/
def EndsOn (b : Block) (lines : List String) (P : Nat → Prop) : Prop := FirstLine P b.startLine lines.length b.endLine

/-- A function ends on the first line where the braces are balanced. -/
def EndsFunction (b : Block) (lines : List String) : Prop := b.EndsOn lines fun j => b.openAt lines j = 0

/-- A class ends on the first line where a brace has been opened and the braces are balanced. -/
def EndsClass (b : Block) (lines : List String) : Prop :=
  b.EndsOn lines fun j => OpensBrace (between lines b.startLine j) ∧ b.openAt lines j = 0

instance (b : Block) (lines : List String) (P : Nat → Prop) [DecidablePred P] : Decidable (b.EndsOn lines P) :=
  inferInstanceAs (Decidable (FirstLine P _ _ _))

instance (b : Block) (lines : List String) : Decidable (b.EndsFunction lines) :=
  inferInstanceAs (Decidable (b.EndsOn lines fun j => b.openAt lines j = 0))

instance (b : Block) (lines : List String) : Decidable (b.EndsClass lines) :=
  inferInstanceAs (Decidable (b.EndsOn lines fun j => OpensBrace (between lines b.startLine j) ∧ b.openAt lines j = 0))

end Block

/-- The blocks that are declared on the lines of a pattern. `opened` says how many braces are taken to be open behind a line. -/
def blocksOf (p : Regex.Pattern) (opened : String → Int) (lines : List String) : List Block :=
  (numbered lines).filterMap fun (n, line, after) => Block.at? p (opened line) n line after

theorem functions_eq (path source : String) :
    (GoFile.ofSource path source).functions = blocksOf GoFile.functionLine (fun _ => 1) (Text.lines source) := by
  rw [GoFile.ofSource, blocksOf]

theorem classes_eq (path source : String) :
    (JavaFile.ofSource path source).classes = blocksOf JavaFile.classLine braceBalance (Text.lines source) := by
  rw [JavaFile.ofSource, blocksOf]

theorem mem_numberedFrom {s n : Nat} {line : String} {after lines : List String} :
    (n, line, after) ∈ numberedFrom s lines ↔ ∃ k, n = s + k ∧ lines.drop k = line :: after := by
  induction lines generalizing s with
  | nil => simp [numberedFrom]
  | cons l rest ih =>
    rw [numberedFrom, List.mem_cons, ih]
    constructor
    · rintro (heq | ⟨k, rfl, hdrop⟩)
      · cases heq
        exact ⟨0, rfl, rfl⟩
      · exact ⟨k + 1, by omega, hdrop⟩
    · rintro ⟨k, rfl, hdrop⟩
      cases k with
      | zero =>
        cases hdrop
        exact .inl rfl
      | succ k => exact .inr ⟨k, by omega, hdrop⟩

/-- The block is declared on its first line, under the name that the pattern finds there. -/
def Declares (p : Regex.Pattern) (lines : List String) (b : Block) : Prop :=
  0 < b.startLine ∧ ∃ line m, lines[b.startLine - 1]? = some line ∧ p.matchStart? (Text.trim line) = some m ∧
    b.name = m.groupText 1

section Declares
variable {p : Regex.Pattern} {opened : String → Int} {lines : List String} {b : Block}

theorem mem_blocksOf : b ∈ blocksOf p opened lines ↔ ∃ k line after m, lines.drop k = line :: after ∧
    p.matchStart? (Text.trim line) = some m ∧
    b = ⟨m.groupText 1, k + 1, (closingLine? (opened line) (k + 2) after).getD (k + 1)⟩ := by
  rw [blocksOf, List.mem_filterMap]
  constructor
  · rintro ⟨⟨n, line, after⟩, hmem, hb⟩
    obtain ⟨k, rfl, hdrop⟩ := mem_numberedFrom.mp hmem
    obtain ⟨m, hm, rfl⟩ := Option.map_eq_some_iff.mp hb
    rw [Nat.add_comm 1 k]
    exact ⟨k, line, after, m, hdrop, hm, rfl⟩
  · rintro ⟨k, line, after, m, hdrop, hm, rfl⟩
    exact ⟨(k + 1, line, after), mem_numberedFrom.mpr ⟨k, Nat.add_comm k 1, hdrop⟩, Option.map_eq_some_iff.mpr ⟨m, hm, rfl⟩⟩

theorem Declares.exists_drop (h : Declares p lines b) : ∃ k line after m, b.startLine = k + 1 ∧
    lines.drop k = line :: after ∧ p.matchStart? (Text.trim line) = some m ∧ b.name = m.groupText 1 := by
  obtain ⟨hpos, line, m, hget, hm, hname⟩ := h
  obtain ⟨hk, hline⟩ := List.getElem?_eq_some_iff.mp hget
  exact ⟨b.startLine - 1, line, _, m, by omega, hline ▸ List.drop_eq_getElem_cons hk, hm, hname⟩

theorem Declares.le_length (h : Declares p lines b) : b.startLine ≤ lines.length := by
  obtain ⟨k, line, after, m, hstart, hdrop, -, -⟩ := h.exists_drop
  have hlength := length_of_drop hdrop
  omega

/-- The blocks of an outline are the declared ones with the ends that are found for them. -/
theorem mem_blocksOf_iff {found : Nat → Prop} (hfound : ∀ k line after, lines.drop k = line :: after → b.startLine = k + 1 →
      ∀ j, (found j ↔ k + 1 < j ∧ opened line + b.openAt lines j = b.openAt lines (k + 1))) :
    b ∈ blocksOf p opened lines ↔ Declares p lines b ∧ b.EndsOn lines found := by
  rw [mem_blocksOf]
  constructor
  · rintro ⟨k, line, after, m, hdrop, hm, rfl⟩
    have hget : lines[k]? = some line := by rw [← List.head?_drop, hdrop, List.head?_cons]
    refine ⟨⟨Nat.succ_pos k, line, m, hget, hm, rfl⟩, ?_⟩
    exact (firstLine_closing hdrop (opened line)).congr fun j _ => (hfound k line after hdrop rfl j).symm
  · rintro ⟨hdeclares, hends⟩
    obtain ⟨k, line, after, m, hstart, hdrop, hm, hname⟩ := hdeclares.exists_drop
    obtain ⟨name, start, last⟩ := b
    obtain rfl : start = k + 1 := hstart
    have hlast := (firstLine_closing hdrop (opened line)).congr fun j _ => (hfound k line after hdrop rfl j).symm
    exact ⟨k, line, after, m, hdrop, hm, by rw [← FirstLine.unique hends hlast, ← hname]⟩

theorem mem_functions (path source : String) : b ∈ (GoFile.ofSource path source).functions ↔
    Declares GoFile.functionLine (Text.lines source) b ∧ b.EndsOn (Text.lines source) fun j =>
      b.startLine < j ∧ 1 + b.openAt (Text.lines source) j = b.openAt (Text.lines source) b.startLine := by
  rw [functions_eq]
  exact mem_blocksOf_iff fun k line after _ hb j => by rw [hb]

theorem mem_classes (path source : String) : b ∈ (JavaFile.ofSource path source).classes ↔
    Declares JavaFile.classLine (Text.lines source) b ∧ b.EndsOn (Text.lines source) fun j =>
      b.startLine < j ∧ b.openAt (Text.lines source) j = 0 := by
  rw [classes_eq]
  refine mem_blocksOf_iff fun k line after hdrop hb j => ?_
  have hline : b.openAt (Text.lines source) (k + 1) = braceBalance line := by
    rw [Block.openAt, hb, balance_line hdrop]
  rw [hb, hline]
  omega

end Declares

/-- The blocks of functions and classes, and when their ends are those of the matching braces. -/
theorem blocks_end_at_matching_brace_iff (path source : String) :
    let lines := Text.lines source
    (∀ b, b ∈ (GoFile.ofSource path source).functions ↔ Declares GoFile.functionLine lines b ∧
      b.EndsOn lines fun j => b.startLine < j ∧ 1 + b.openAt lines j = b.openAt lines b.startLine) ∧
    (∀ b ∈ (GoFile.ofSource path source).functions, b.EndsFunction lines ↔
      b.openAt lines b.startLine = 1 ∨
      (∀ j, b.startLine < j → j ≤ lines.length → 1 + b.openAt lines j ≠ b.openAt lines b.startLine) ∧
      (b.openAt lines b.startLine = 0 ∨ ∀ j, b.startLine < j → j ≤ lines.length → b.openAt lines j ≠ 0)) ∧
    (∀ b, b ∈ (JavaFile.ofSource path source).classes ↔ Declares JavaFile.classLine lines b ∧
      b.EndsOn lines fun j => b.startLine < j ∧ b.openAt lines j = 0) ∧
    (∀ b ∈ (JavaFile.ofSource path source).classes, b.EndsClass lines ↔
      ∀ j, b.startLine < j → j ≤ lines.length → b.openAt lines j = 0 →
        (∀ k, b.startLine < k → k < j → b.openAt lines k ≠ 0) → OpensBrace (between lines b.startLine j) ∧
          ¬ (OpensBrace (between lines b.startLine b.startLine) ∧ b.openAt lines b.startLine = 0)) := by
  intro lines
  refine ⟨fun b => mem_functions path source, fun b hb => ?_, fun b => mem_classes path source, fun b hb => ?_⟩
  · obtain ⟨hdeclares, hends⟩ := (mem_functions path source).mp hb
    exact firstLine_below_iff hdeclares.le_length hends
  · obtain ⟨hdeclares, hends⟩ := (mem_classes path source).mp hb
    exact firstLine_opened_iff (fun j => OpensBrace (between lines b.startLine j)) hdeclares.le_length hends

namespace OneBrace

def goSource : String := "package main\n\nfunc main() \x7b\n\tprintln()\n\x7d\n"

def javaSource : String := "class Main \x7b\n\x7d\n"

/-- Where one brace is opened on the line of the declaration, the block ends at the matching brace. -/
theorem ends_at_matching_brace :
    ⟨"main", 3, 5⟩ ∈ (GoFile.ofSource "main.go" goSource).functions ∧ Block.EndsFunction ⟨"main", 3, 5⟩ (Text.lines goSource) ∧
    ⟨"Main", 1, 2⟩ ∈ (JavaFile.ofSource "Main.java" javaSource).classes ∧ Block.EndsClass ⟨"Main", 1, 2⟩ (Text.lines javaSource) := by
  have hmain : ⟨"main", 3, 5⟩ ∈ (GoFile.ofSource "main.go" goSource).functions := by decide +kernel
  have hclass : ⟨"Main", 1, 2⟩ ∈ (JavaFile.ofSource "Main.java" javaSource).classes := by decide +kernel
  obtain ⟨-, hfunctions, -, -⟩ := blocks_end_at_matching_brace_iff "main.go" goSource
  obtain ⟨-, -, -, hclasses⟩ := blocks_end_at_matching_brace_iff "Main.java" javaSource
  have hstop : ∀ j, j ≤ (Text.lines javaSource).length → 1 < j → OpensBrace (between (Text.lines javaSource) 1 j) ∧
      ¬ (OpensBrace (between (Text.lines javaSource) 1 1) ∧ Block.openAt ⟨"Main", 1, 2⟩ (Text.lines javaSource) 1 = 0) := by
    decide
  exact ⟨hmain, (hfunctions _ hmain).mpr (.inl (by decide)), hclass,
    (hclasses _ hclass).mpr fun j hlt hle _ _ => hstop j hle hlt⟩

end OneBrace

namespace TwoBraces

/-- A function whose line opens two braces. -/
def goSource : String := "package main\n\nfunc main() \x7b if true \x7b\n\x7d\n\x7d\n"

/-- A class whose brace does not follow at once. -/
def javaSource : String := "class Main\n\n\x7b\n\x7d\n"

/-- The function and the class end before the matching brace. -/
theorem ends_before_matching_brace :
    (GoFile.ofSource "main.go" goSource).functions = [⟨"main", 3, 4⟩] ∧
    Block.EndsFunction ⟨"main", 3, 5⟩ (Text.lines goSource) ∧ ¬ Block.EndsFunction ⟨"main", 3, 4⟩ (Text.lines goSource) ∧
    (JavaFile.ofSource "Main.java" javaSource).classes = [⟨"Main", 1, 2⟩] ∧
    Block.EndsClass ⟨"Main", 1, 4⟩ (Text.lines javaSource) ∧ ¬ Block.EndsClass ⟨"Main", 1, 2⟩ (Text.lines javaSource) := by
  decide +kernel

end TwoBraces

end ThreatScan
