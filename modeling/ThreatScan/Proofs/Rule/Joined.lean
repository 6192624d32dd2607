import Mathlib.Data.List.Flatten
import ThreatScan.Proofs.Rule.LineOrder
import ThreatScan.Proofs.Text.Stored
/-!
A scan of two texts one below the other.

Lines are scanned one by one, so the findings in two texts joined by a line feed are those in the first, and behind them those
in the second so many lines further down as the first text has. The lines around a finding are left out of this: at the seam
they come from both texts (`RuleMatch.alone`). One thing is carried from text to text: a search that breaks off in the first
text is not taken up in the second. So the second text is scanned with the rules that came through the first
(`alone_scanAll_joined`), and the two scans can be told apart from a scan of each text on its own exactly by the findings that
are missed so (`scanAll_joined_eq_iff`).
-/
namespace ThreatScan

def RuleMatch.alone (m : RuleMatch) : RuleMatch := { m with context := "" }

def RuleMatch.down (n : Nat) (m : RuleMatch) : RuleMatch := { m with line := m.line + n }

/-- Items that are left out bring nothing exactly if as much is left. -/
theorem length_flatMap_filter_eq_iff {α β : Type} {p : β → Bool} {f : β → List α} {l : List β} :
    ((l.filter p).flatMap f).length = (l.flatMap f).length ↔ ∀ b ∈ l, p b = false → f b = [] := by
  induction l with
  | nil => simp
  | cons b rest ih =>
    rw [List.forall_mem_cons, ← ih, List.flatMap_cons, List.length_append]
    cases hb : p b with
    | true =>
      rw [List.filter_cons_of_pos hb, List.flatMap_cons, List.length_append, Nat.add_left_cancel_iff]
      simp
    | false =>
      have hle : ((rest.filter p).flatMap f).length ≤ (rest.flatMap f).length :=
        (List.Sublist.flatMap List.filter_sublist f).length_le
      rw [List.filter_cons_of_neg (by simp [hb]), imp_iff_right rfl, ← List.length_eq_zero_iff]
      omega

namespace Rule

section Engine
variable (engine : Engine) (r : Rule) (rules : List Rule) (first second : List String)

/-! ## One line -/

/-- Only the context of what is found on a line depends on the other lines. -/
theorem alone_entriesOn (lines : List String) (text : String) (n : Nat) :
    (r.entriesOn engine lines text n).map RuleMatch.alone = (r.entriesOn engine [] text n).map RuleMatch.alone := by
  unfold entriesOn
  split
  · rw [List.map_map, List.map_map]
    rfl
  · rfl

/-- On a line further down the same is found. -/
theorem alone_entriesOn_add (text : String) (n k : Nat) : (r.entriesOn engine [] text (n + k)).map RuleMatch.alone =
    (r.entriesOn engine [] text n).map (RuleMatch.alone ∘ RuleMatch.down k) := by
  unfold entriesOn
  split
  · rw [List.map_map, List.map_map]
    rfl
  · rfl

theorem breaksOn_append : r.breaksOn engine (first ++ second) = (r.breaksOn engine first || r.breaksOn engine second) := by
  unfold breaksOn
  split
  · exact List.any_append
  · rfl

/-! ## Lines of two texts -/

/-- The rules that come through the lines: their search does not break off there. -/
def through (lines : List String) : List Rule := rules.filter fun r => !r.breaksOn engine lines

/-- On the lines of the first text the second one does not matter. -/
theorem searching_first {n : Nat} (hn : n - 1 ≤ first.length) :
    searching engine (first ++ second) rules n = searching engine first rules n := by
  unfold searching
  rw [List.take_append_of_le_length hn]

/-- On the lines of the second text the rules are searching that have come through the first one, and so far through the
second. -/
theorem searching_second {n : Nat} (hn : 1 ≤ n) : searching engine (first ++ second) rules (n + first.length) =
    searching engine second (through engine rules first) n := by
  have htake : (first ++ second).take (n + first.length - 1) = first ++ second.take (n - 1) := by
    rw [show n + first.length - 1 = first.length + (n - 1) by omega, List.take_length_add_append]
  unfold searching through readable
  rw [htake, List.filter_filter, List.filter_filter, List.filter_filter]
  refine List.filter_congr fun r _ => ?_
  rw [breaksOn_append]
  cases r.breaksOn engine first <;> cases r.breaksOn engine (second.take (n - 1)) <;> simp

theorem alone_lineMajor (lines : List String) (rulesAt : Nat → List Rule) :
    (lineMajor engine lines rulesAt).map RuleMatch.alone = (lines.zipIdx 1).flatMap fun e =>
      (rulesAt e.2).flatMap fun r => (r.entriesOn engine [] e.1 e.2).map RuleMatch.alone := by
  unfold lineMajor
  simp only [List.map_flatMap, alone_entriesOn engine _ lines]

theorem alone_lineMajor_append :
    (lineMajor engine (first ++ second) (searching engine (first ++ second) rules)).map RuleMatch.alone =
      (lineMajor engine first (searching engine first rules)).map RuleMatch.alone ++
      (lineMajor engine second (searching engine second (through engine rules first))).map
        (RuleMatch.alone ∘ RuleMatch.down first.length) := by
  have hdown : (lineMajor engine second (searching engine second (through engine rules first))).map
      (RuleMatch.alone ∘ RuleMatch.down first.length) = (second.zipIdx 1).flatMap fun e =>
        (searching engine second (through engine rules first) e.2).flatMap fun r =>
          (r.entriesOn engine [] e.1 (e.2 + first.length)).map RuleMatch.alone := by
    simp only [alone_entriesOn_add]
    have hcontext : ∀ ms : List RuleMatch, ms.map (RuleMatch.alone ∘ RuleMatch.down first.length) =
        (ms.map RuleMatch.alone).map (RuleMatch.down first.length) := fun ms => by rw [List.map_map]; rfl
    rw [hcontext, alone_lineMajor]
    simp only [List.map_flatMap, hcontext]
  rw [alone_lineMajor, alone_lineMajor, hdown, List.zipIdx_append, List.flatMap_append]
  congr 1
  · refine List.flatMap_congr fun e he => ?_
    have hlast := List.snd_lt_add_of_mem_zipIdx he
    rw [searching_first engine rules first second (by omega)]
  · rw [Nat.add_comm 1 first.length, ← List.map_snd_add_zipIdx_eq_zipIdx, List.flatMap_map]
    refine List.flatMap_congr fun e he => ?_
    have hfirst := List.le_snd_of_mem_zipIdx he
    rw [Prod.map_fst, Prod.map_snd, searching_second engine rules first second hfirst]
    rfl

/-! ## Two texts -/

/-- The findings in two texts, one below the other: those in the first, and those in the second of the rules that have come
through the first, further down. -/
theorem alone_scanAll_joined (s t : String) :
    (scanAll engine rules (s ++ "\n" ++ t)).map RuleMatch.alone = (scanAll engine rules s).map RuleMatch.alone ++
      (scanAll engine (through engine rules (Text.lines s)) t).map
        (RuleMatch.alone ∘ RuleMatch.down (Text.lines s).length) := by
  rw [scanAll_eq_lineMajor, scanAll_eq_lineMajor, scanAll_eq_lineMajor, Text.lines_joined, alone_lineMajor_append]

theorem length_scanAll (source : String) :
    (scanAll engine rules source).length = (rules.flatMap fun r => r.scan engine (Text.lines source)).length :=
  List.length_mergeSort _

/-- The rules that come through find a part of what all rules find, and the number of findings tells whether it is all. -/
theorem scanAll_through_eq (lines : List String) {t : String}
    (h : (scanAll engine (through engine rules lines) t).length = (scanAll engine rules t).length) :
    scanAll engine (through engine rules lines) t = scanAll engine rules t := by
  have hpart := List.Sublist.flatMap (List.filter_sublist (p := fun r => !breaksOn engine r lines) (l := rules))
    fun r => r.scan engine (Text.lines t)
  rw [length_scanAll, length_scanAll] at h
  unfold scanAll
  rw [through, hpart.eq_of_length h]

/-- Scanned together, two texts give what each gives on its own exactly if no rule that breaks off in the first finds something
in the second. -/
theorem scanAll_joined_eq_iff (s t : String) :
    (scanAll engine rules (s ++ "\n" ++ t)).map RuleMatch.alone = (scanAll engine rules s).map RuleMatch.alone ++
        (scanAll engine rules t).map (RuleMatch.alone ∘ RuleMatch.down (Text.lines s).length) ↔
      ∀ r ∈ rules, r.breaksOn engine (Text.lines s) = true → r.scan engine (Text.lines t) = [] := by
  have hmissed : (scanAll engine (through engine rules (Text.lines s)) t).length = (scanAll engine rules t).length ↔
      ∀ r ∈ rules, r.breaksOn engine (Text.lines s) = true → r.scan engine (Text.lines t) = [] := by
    rw [length_scanAll, length_scanAll, through, length_flatMap_filter_eq_iff]
    simp only [Bool.not_eq_false']
  rw [alone_scanAll_joined, List.append_cancel_left_eq, ← hmissed]
  constructor
  · intro heq
    simpa only [List.length_map] using congrArg List.length heq
  · intro hsame
    rw [scanAll_through_eq engine rules _ hsame]

end Engine

/-- The findings of a list of rules in two texts that are not empty, joined by a line feed, whatever the engine finds: first
those in the first text, then those in the second with their lines counted on, where a rule that broke off in the first text is
not tried in the second. They are the findings in each text on its own exactly if no such rule finds something in the second. -/
theorem findings_of_joined_texts {s t : String} (hs : s ≠ "") (ht : t ≠ "") (records : List (List (String × Value))) :
    let rules := records.map ofRecord
    let further := RuleMatch.alone ∘ RuleMatch.down (Text.lines s).length
    (∀ source ∈ [s ++ "\n" ++ t, s, t],
      scanValue (.str source) (.list (records.map .dict)) = .ok (scanAll regexEngine rules source)) ∧
    ∀ engine : Engine,
      (scanAll engine rules (s ++ "\n" ++ t)).map RuleMatch.alone = (scanAll engine rules s).map RuleMatch.alone ++
        (scanAll engine (through engine rules (Text.lines s)) t).map further ∧
      ((scanAll engine rules (s ++ "\n" ++ t)).map RuleMatch.alone =
          (scanAll engine rules s).map RuleMatch.alone ++ (scanAll engine rules t).map further ↔
        ∀ r ∈ rules, r.breaksOn engine (Text.lines s) = true → r.scan engine (Text.lines t) = []) := by
  intro rules further
  have hjoined : s ++ "\n" ++ t ≠ "" := by
    intro h
    have hlength := congrArg String.length h
    simp at hlength
  refine ⟨?_, fun engine => ⟨alone_scanAll_joined engine rules s t, scanAll_joined_eq_iff engine rules s t⟩⟩
  intro source hsource
  have hne : source ≠ "" := by
    simp only [List.mem_cons, List.not_mem_nil, or_false] at hsource
    rcases hsource with rfl | rfl | rfl
    · exact hjoined
    · exact hs
    · exact ht
  exact scanValue_records hne records

/-- Three rules, one of which cannot be read, on a text of two lines and one of a single line. -/
theorem line_below_two_lines :
    let records := [patternRecord "[ab]", patternRecord "(", patternRecord "b"]
    "ab\nb" ≠ "" ∧ "b" ≠ "" ∧ ∃ upper lower found, scanValue (.str "ab\nb") (.list (records.map .dict)) = .ok upper ∧
      scanValue (.str "b") (.list (records.map .dict)) = .ok lower ∧
      scanValue (.str ("ab\nb" ++ "\n" ++ "b")) (.list (records.map .dict)) = .ok found ∧
      found.map RuleMatch.alone = upper.map RuleMatch.alone ++ lower.map (RuleMatch.alone ∘ RuleMatch.down 2) ∧
      lower.map placeOf = [(1, 0, "b"), (1, 0, "b")] := by
  intro records
  have hs : "ab\nb" ≠ "" := by decide
  have ht : "b" ≠ "" := by decide
  obtain ⟨hscan, hengine⟩ := findings_of_joined_texts hs ht records
  obtain ⟨-, hjoined⟩ := hengine regexEngine
  have hunbroken : ((records.map ofRecord).all fun r => !r.breaksOn regexEngine (Text.lines "ab\nb")) = true := by
    decide +kernel
  have hlower : (scanAll regexEngine (records.map ofRecord) "b").map placeOf = [(1, 0, "b"), (1, 0, "b")] := by
    rw [scanAll_eq_lineMajor]
    decide +kernel
  refine ⟨hs, ht, _, _, _, hscan _ (by simp), hscan _ (by simp), hscan _ (by simp), ?_, hlower⟩
  have hlines : (Text.lines "ab\nb").length = 2 := by decide
  rw [hlines] at hjoined
  refine hjoined.mpr fun r hr hbreaks => ?_
  have hr := List.all_eq_true.mp hunbroken r hr
  rw [hbreaks] at hr
  cases hr

namespace BrokenSearch

/-- The rule breaks off in the upper text, so its match in the lower one is not found, although the lower text alone has it. -/
theorem lower_text_not_searched : ∃ upper lower found, scanValue (.str "abb") (.list [.dict record]) = .ok upper ∧
    scanValue (.str "b") (.list [.dict record]) = .ok lower ∧
    scanValue (.str ("abb" ++ "\n" ++ "b")) (.list [.dict record]) = .ok found ∧
    found.map placeOf = [] ∧ lower.map placeOf = [(1, 0, "b")] ∧
    found.map RuleMatch.alone ≠
      upper.map RuleMatch.alone ++ lower.map (RuleMatch.alone ∘ RuleMatch.down (Text.lines "abb").length) := by
  have hfound : (scanAll regexEngine [ofRecord record] ("abb" ++ "\n" ++ "b")).map placeOf = [] := by
    rw [scanAll_eq_lineMajor]
    decide +kernel
  have hlower : (scanAll regexEngine [ofRecord record] "b").map placeOf = [(1, 0, "b")] := by
    rw [scanAll_eq_lineMajor]
    decide +kernel
  refine ⟨_, _, _, @scanValue_records "abb" (by decide) [record], @scanValue_records "b" (by decide) [record],
    @scanValue_records ("abb" ++ "\n" ++ "b") (by decide) [record], hfound, hlower, fun heq => ?_⟩
  have hlength := congrArg List.length heq
  have hnone := congrArg List.length hfound
  have hone := congrArg List.length hlower
  simp only [List.map_cons, List.map_nil, List.length_map, List.length_append, List.length_nil, List.length_cons] at *
  omega

end BrokenSearch
end Rule
end ThreatScan
