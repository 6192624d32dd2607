import ThreatScan.Proofs.Disk.Files
import ThreatScan.Proofs.Text.Stored
import ThreatScan.Taint.Lines
/-!
Taint flows by lines, of two texts one below the other.

A flow is a pair of lines: one with an input, and a later one with a dangerous call. Which lines those are can be told line by
line (`OccursOn`), and the flows of a text are exactly the pairs of such lines in that order (`pair_mem_flows_iff`), listed by
the line of the input and then by that of the call (`flows_ascending`). The lines of two texts joined by a line feed are the
lines of the first and, so many lines further down, those of the second (`occursOn_joined_iff`). So each flow of the joined
text lies in one of the two, or leads from the first to the second.
-/
namespace ThreatScan

open Regex

def LineFlow.pair (f : LineFlow) : Nat × Nat := (f.sourceLine, f.sinkLine)

/-- One of the patterns occurs on the line of that number; the first line of a text has the number one. -/
def OccursOn (words : List Pattern) (text : String) (n : Nat) : Prop :=
  ∃ k line, (Text.lines text)[k]? = some line ∧ n = k + 1 ∧ ∃ p ∈ words, p.occursIn line = true

/-- The first pair comes before the second: by the line of the input, and for one input by the line of the call. -/
def Before (x y : Nat × Nat) : Prop := x.1 < y.1 ∨ x.1 = y.1 ∧ x.2 < y.2

/-! ## Lines with a pattern -/

theorem mem_linesWith_iff {words : List Pattern} {first : Nat} {lines : List String} {e : Nat × String} :
    e ∈ linesWith words first lines ↔ ∃ k line, lines[k]? = some line ∧ e = (first + k, Text.trim line) ∧
      ∃ p ∈ words, p.occursIn line = true := by
  induction lines generalizing first with
  | nil => simp [linesWith]
  | cons line rest ih =>
    -- the first line has the first number, the others are numbered from the next one
    have hsplit : (∃ k l, (line :: rest)[k]? = some l ∧ e = (first + k, Text.trim l) ∧ ∃ p ∈ words, p.occursIn l = true) ↔
        (e = (first, Text.trim line) ∧ ∃ p ∈ words, p.occursIn line = true) ∨ e ∈ linesWith words (first + 1) rest := by
      rw [ih]
      constructor
      · rintro ⟨k, l, hl, rfl, hp⟩
        cases k with
        | zero =>
          obtain rfl : line = l := by simpa using hl
          exact .inl ⟨rfl, hp⟩
        | succ k =>
          refine .inr ⟨k, l, by simpa using hl, ?_, hp⟩
          rw [Nat.add_assoc, Nat.add_comm 1 k]
      · rintro (⟨rfl, hp⟩ | ⟨k, l, hl, rfl, hp⟩)
        · exact ⟨0, line, rfl, rfl, hp⟩
        · refine ⟨k + 1, l, by simpa using hl, ?_, hp⟩
          rw [Nat.add_assoc, Nat.add_comm 1 k]
    rw [hsplit, linesWith, ← List.any_eq_true]
    split
    · next hany => simp [hany]
    · next hany => simp [hany]

theorem linesWith_ascending (words : List Pattern) (first : Nat) (lines : List String) :
    (linesWith words first lines).Pairwise fun a b => a.1 < b.1 := by
  induction lines generalizing first with
  | nil => exact List.Pairwise.nil
  | cons line rest ih =>
    rw [linesWith]
    split
    · refine List.Pairwise.cons (fun e he => ?_) (ih (first + 1))
      obtain ⟨k, _, _, rfl, _⟩ := mem_linesWith_iff.mp he
      show first < first + 1 + k
      omega
    · exact ih (first + 1)

theorem exists_mem_linesWith_iff {words : List Pattern} {text : String} {n : Nat} :
    (∃ code, (n, code) ∈ linesWith words 1 (Text.lines text)) ↔ OccursOn words text n := by
  simp only [mem_linesWith_iff, OccursOn, Prod.mk.injEq]
  constructor
  · rintro ⟨_, k, line, hl, ⟨rfl, -⟩, hp⟩
    exact ⟨k, line, hl, Nat.add_comm 1 k, hp⟩
  · rintro ⟨k, line, hl, rfl, hp⟩
    exact ⟨_, k, line, hl, ⟨Nat.add_comm k 1, rfl⟩, hp⟩

/-! ## The flows of a text -/

namespace TaintWords
variable (w : TaintWords)

/-- The pairs are those of a line with an input and a later line with a dangerous call. -/
theorem pair_mem_flows_iff {text : String} {x : Nat × Nat} : x ∈ (w.flows text).map LineFlow.pair ↔
    OccursOn w.sources text x.1 ∧ OccursOn w.sinks text x.2 ∧ x.1 < x.2 := by
  rw [← exists_mem_linesWith_iff, ← exists_mem_linesWith_iff]
  simp only [flows, List.mem_map, List.mem_flatMap, List.mem_filter, decide_eq_true_eq]
  constructor
  · rintro ⟨_, ⟨⟨n, code⟩, hsource, ⟨m, sink⟩, ⟨hsink, hlt⟩, rfl⟩, rfl⟩
    exact ⟨⟨code, hsource⟩, ⟨sink, hsink⟩, hlt⟩
  · rintro ⟨⟨code, hsource⟩, ⟨sink, hsink⟩, hlt⟩
    exact ⟨⟨x.1, code, x.2, sink⟩, ⟨(x.1, code), hsource, (x.2, sink), ⟨hsink, hlt⟩, rfl⟩, rfl⟩

theorem flows_ascending (text : String) : ((w.flows text).map LineFlow.pair).Pairwise Before := by
  rw [List.pairwise_map, flows, List.pairwise_flatMap]
  constructor
  · -- one input: its calls are listed line by line
    rintro ⟨n, code⟩ -
    rw [List.pairwise_map]
    refine ((linesWith_ascending w.sinks 1 (Text.lines text)).filter _).imp ?_
    intro a b hlt
    exact .inr ⟨rfl, hlt⟩
  · refine (linesWith_ascending w.sources 1 (Text.lines text)).imp ?_
    intro a b hlt f hf g hg
    obtain ⟨_, -, rfl⟩ := List.mem_map.mp hf
    obtain ⟨_, -, rfl⟩ := List.mem_map.mp hg
    exact .inl hlt

theorem flowsIn_of_read {d : Disk} {path text : String} (h : d.read path = .ok (.text text)) (htext : '\r' ∉ text.toList) :
    w.flowsIn d path = w.flows text := by
  unfold flowsIn
  rw [Disk.readText_of_read h, Text.uniformLines_of_not_mem htext, String.ofList_toList]

end TaintWords

/-! ## Two texts -/

theorem OccursOn.bounds {words : List Pattern} {text : String} {n : Nat} (h : OccursOn words text n) :
    1 ≤ n ∧ n ≤ (Text.lines text).length := by
  obtain ⟨k, line, hl, rfl, -⟩ := h
  have hk := (List.getElem?_eq_some_iff.mp hl).1
  omega

theorem occursOn_joined_iff {words : List Pattern} {s t : String} {n : Nat} : OccursOn words (s ++ "\n" ++ t) n ↔
    OccursOn words s n ∨ ∃ k, OccursOn words t k ∧ n = (Text.lines s).length + k := by
  unfold OccursOn
  rw [Text.lines_joined]
  constructor
  · rintro ⟨k, line, hl, rfl, hp⟩
    rcases Nat.lt_or_ge k (Text.lines s).length with hk | hk
    · rw [List.getElem?_append_left hk] at hl
      exact .inl ⟨k, line, hl, rfl, hp⟩
    · rw [List.getElem?_append_right hk] at hl
      exact .inr ⟨_, ⟨_, line, hl, rfl, hp⟩, by omega⟩
  · rintro (⟨k, line, hl, rfl, hp⟩ | ⟨_, ⟨k, line, hl, rfl, hp⟩, rfl⟩)
    · have hk := (List.getElem?_eq_some_iff.mp hl).1
      exact ⟨k, line, by rw [List.getElem?_append_left hk, hl], rfl, hp⟩
    · refine ⟨(Text.lines s).length + k, line, ?_, rfl, hp⟩
      rw [List.getElem?_append_right (Nat.le_add_right _ _), Nat.add_sub_cancel_left, hl]

/-- The flows of a file that holds two texts joined by a line feed, for the words of any language, Go and Java among them: their
pairs of lines ascend, so that none occurs twice, and they are the pairs of the first text, the pairs of the second with both
lines counted on, and all pairs of a line of the first with an input and a line of the second with a dangerous call. -/
theorem flows_of_joined_files (w : TaintWords) {d : Disk} {upper lower joined s t : String} (hs : '\r' ∉ s.toList)
    (ht : '\r' ∉ t.toList) (hupper : d.read upper = .ok (.text s)) (hlower : d.read lower = .ok (.text t))
    (hjoined : d.read joined = .ok (.text (s ++ "\n" ++ t))) :
    let pairs := fun path => (w.flowsIn d path).map LineFlow.pair
    let n := (Text.lines s).length
    (pairs joined).Pairwise Before ∧ (pairs joined).Nodup ∧ ∀ x, x ∈ pairs joined ↔
      x ∈ pairs upper ∨ (∃ y ∈ pairs lower, x = (y.1 + n, y.2 + n)) ∨
        ∃ a k, OccursOn w.sources s a ∧ OccursOn w.sinks t k ∧ x = (a, n + k) := by
  intro pairs n
  have hreturn : '\r' ∉ (s ++ "\n" ++ t).toList := by simp [hs, ht]
  have hascending : (pairs joined).Pairwise Before := by
    simpa only [pairs, w.flowsIn_of_read hjoined hreturn] using w.flows_ascending _
  refine ⟨hascending, hascending.imp ?_, fun x => ?_⟩
  · rintro x _ hbefore rfl
    simp [Before] at hbefore
  simp only [pairs, w.flowsIn_of_read hupper hs, w.flowsIn_of_read hlower ht, w.flowsIn_of_read hjoined hreturn,
    w.pair_mem_flows_iff, occursOn_joined_iff]
  constructor
  · rintro ⟨hsource | ⟨j, hsource, hj⟩, hsink | ⟨k, hsink, hk⟩, hlt⟩
    · exact .inl ⟨hsource, hsink, hlt⟩
    · exact .inr (.inr ⟨x.1, k, hsource, hsink, Prod.ext rfl hk⟩)
    · -- a line of the second text does not stand before one of the first
      have := hsink.bounds
      omega
    · refine .inr (.inl ⟨(j, k), ⟨hsource, hsink, by omega⟩, Prod.ext ?_ ?_⟩)
      · rw [hj, Nat.add_comm]
      · rw [hk, Nat.add_comm]
  · rintro (⟨hsource, hsink, hlt⟩ | ⟨y, ⟨hsource, hsink, hlt⟩, rfl⟩ | ⟨a, k, hsource, hsink, rfl⟩)
    · exact ⟨.inl hsource, .inl hsink, hlt⟩
    · exact ⟨.inr ⟨y.1, hsource, Nat.add_comm _ _⟩, .inr ⟨y.2, hsink, Nat.add_comm _ _⟩, Nat.add_lt_add_right hlt n⟩
    · have hfirst := hsource.bounds
      have hsecond := hsink.bounds
      exact ⟨.inl hsource, .inr ⟨k, hsink, rfl⟩, by omega⟩

namespace SplitProgram

/-- An input, an empty line, and a line that has both. -/
def upper : String := "p := os.Args[1]\n\nexec.Run(os.Args)"

def lower : String := "os.Exec(p)\nc.Query(p)"

def disk : Disk :=
  ⟨[("upper.go", upper), ("lower.go", lower), ("whole.go", upper ++ "\n" ++ lower)].map fun f =>
    (Disk.workPlace ++ [f.1], .file (.text f.2) none)⟩

/-- The dangerous call below the seam is reached from both inputs above it. -/
theorem whole_program_flows : '\r' ∉ upper.toList ∧ '\r' ∉ lower.toList ∧ disk.read "upper.go" = .ok (.text upper) ∧
    disk.read "lower.go" = .ok (.text lower) ∧ disk.read "whole.go" = .ok (.text (upper ++ "\n" ++ lower)) ∧
    ((goTaintWords.flowsIn disk "whole.go").map LineFlow.pair).Pairwise Before ∧
    ∀ x ∈ [(1, 4), (3, 4)], x ∈ (goTaintWords.flowsIn disk "whole.go").map LineFlow.pair := by
  have hs : '\r' ∉ upper.toList := by decide
  have ht : '\r' ∉ lower.toList := by decide
  have hlines : Text.lines upper = ["p := os.Args[1]", "", "exec.Run(os.Args)"] := by decide
  have hsources : linesWith goTaintWords.sources 1 (Text.lines upper) =
      [(1, "p := os.Args[1]"), (3, "exec.Run(os.Args)")] := by decide
  have hsinks : linesWith goTaintWords.sinks 1 (Text.lines lower) = [(1, "os.Exec(p)")] := by decide
  obtain ⟨hascending, -, hpairs⟩ := @flows_of_joined_files goTaintWords disk "upper.go" "lower.go" "whole.go" upper lower
    hs ht rfl rfl rfl
  refine ⟨hs, ht, rfl, rfl, rfl, hascending, ?_⟩
  intro x hx
  have hcall : OccursOn goTaintWords.sinks lower 1 :=
    exists_mem_linesWith_iff.mp ⟨_, by rw [hsinks]; exact List.mem_cons_self⟩
  have hinput : OccursOn goTaintWords.sources upper x.1 := by
    refine exists_mem_linesWith_iff.mp ?_
    rw [hsources]
    rcases List.mem_pair.mp hx with rfl | rfl
    · exact ⟨_, List.mem_cons_self⟩
    · exact ⟨_, List.mem_cons_of_mem _ List.mem_cons_self⟩
  rw [hlines] at hpairs
  refine (hpairs x).mpr (.inr (.inr ⟨x.1, 1, hinput, hcall, ?_⟩))
  rcases List.mem_pair.mp hx with rfl | rfl <;> rfl

end SplitProgram
end ThreatScan
