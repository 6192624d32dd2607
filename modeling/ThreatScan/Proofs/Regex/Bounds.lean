import ThreatScan.Proofs.Regex.Words
import ThreatScan.Proofs.Rule.LineOrder
/-!
Matches lie within the text.

A pattern is run with a continuation, so what is to be carried through its constructs is where the continuation can be asked: at
places from the one where the pattern was run to the end of the text (`Outcome.Reached`). Every construct keeps to this, loops
by induction on their fuel (`forward_attempt`). A search that starts within the text therefore stays in it, and every match that
it finds begins and ends there (`within_findFrom`).
-/
namespace ThreatScan.Regex

/-- If something was accepted, the continuation accepted it at a place from `pos` to the end of the text. -/
def Outcome.Reached (s : Array Char) (pos : Nat) (k : Continuation) (o : Outcome) : Prop :=
  ∀ stop m, o = .stops stop m → ∃ q m₁, pos ≤ q ∧ q ≤ s.size ∧ k q m₁ = .stops stop m

/-- Run at a place of the text, the pattern asks the continuation at places from there to the end of the text only. -/
def Run.Forward (s : Array Char) (run : Run) : Prop := ∀ pos m k, pos ≤ s.size → (run pos m k).Reached s pos k

section Reached
variable {s : Array Char} {pos : Nat} {k : Continuation}

theorem reached_fails (m : Marks) : (Outcome.fails m).Reached s pos k := by
  intro stop m' h
  cases h

theorem reached_here (hpos : pos ≤ s.size) (m : Marks) : (k pos m).Reached s pos k := by
  intro stop m' h
  exact ⟨pos, m, Nat.le_refl pos, hpos, h⟩

theorem Outcome.Reached.of_le {o : Outcome} {from' : Nat} (h : o.Reached s pos k) (hle : from' ≤ pos) :
    o.Reached s from' k := by
  intro stop m ho
  obtain ⟨q, m₁, hq, hsize, hk⟩ := h stop m ho
  exact ⟨q, m₁, Nat.le_trans hle hq, hsize, hk⟩

theorem reached_at {q : Nat} (hq : pos ≤ q) (hsize : q ≤ s.size) (m : Marks) : (k q m).Reached s pos k :=
  (reached_here hsize m).of_le hq

/-- A pattern whose continuation is another pattern with the continuation. -/
theorem Outcome.Reached.trans {o : Outcome} {mid : Continuation} (h : o.Reached s pos mid)
    (hmid : ∀ q m, pos ≤ q → q ≤ s.size → (mid q m).Reached s q k) : o.Reached s pos k := by
  intro stop m ho
  obtain ⟨q, m₁, hq, hsize, hk⟩ := h stop m ho
  exact (hmid q m₁ hq hsize).of_le hq stop m hk

/-- The place where a pattern stops that is run for its own sake. -/
theorem Outcome.Reached.place {o : Outcome} {stop : Nat} {m : Marks} (h : o.Reached s pos .stops) (ho : o = .stops stop m) :
    pos ≤ stop ∧ stop ≤ s.size := by
  obtain ⟨q, m₁, hq, hsize, hk⟩ := h stop m ho
  cases hk
  exact ⟨hq, hsize⟩

end Reached

/-! ## Constructs -/

section Constructs
variable {s : Array Char}

theorem lt_size_of_fits {set : CharClass} {pos : Nat} (h : set.fits s pos = true) : pos < s.size := by
  unfold CharClass.fits at h
  split at h
  · next c hc => exact (Array.getElem?_eq_some_iff.mp hc).1
  · cases h

theorem runEnd_bounds (set : CharClass) {pos : Nat} (hpos : pos ≤ s.size) (limit : Nat) :
    pos ≤ runEnd set s pos limit ∧ runEnd set s pos limit ≤ s.size := by
  induction limit generalizing pos with
  | zero => exact ⟨Nat.le_refl pos, hpos⟩
  | succ limit ih =>
    unfold runEnd
    split
    · next hfit =>
      have hlt : pos + 1 ≤ s.size := lt_size_of_fits hfit
      have hnext := ih hlt
      omega
    · exact ⟨Nat.le_refl pos, hpos⟩

theorem add_le_size_of_sameText {fold : Option Bool} {a b count : Nat} (hb : b ≤ s.size)
    (h : sameText fold s a b count = true) : b + count ≤ s.size := by
  induction count generalizing a b with
  | zero => exact hb
  | succ count ih =>
    obtain ⟨halike, hrest⟩ := (Bool.and_eq_true _ _).mp h
    have hlt : b < s.size := by
      unfold alikeAt at halike
      split at halike
      · next hb => exact (Array.getElem?_eq_some_iff.mp hb).1
      · next hb => exact (Array.getElem?_eq_some_iff.mp hb).1
      · cases halike
    have hnext := ih hlt hrest
    omega

variable {next : Option CharClass} {inLoop : Bool} {saved : Marks} {k : Continuation}

theorem reached_shrinkRun {pos : Nat} (extra : Nat) (hsize : pos + extra ≤ s.size) (m : Marks) :
    (shrinkRun s next inLoop pos saved k extra m).Reached s pos k := by
  induction extra generalizing m with
  | zero =>
    unfold shrinkRun
    split
    · split
      · exact reached_fails _
      · exact reached_here hsize m
    · exact reached_fails _
  | succ extra ih =>
    have hrest := ih (by omega)
    unfold shrinkRun
    split
    · split
      · exact hrest _
      · exact reached_at (by omega) (by omega) m
    · exact hrest m

theorem reached_growRun {pos : Nat} (extra : Nat) (hsize : pos + extra ≤ s.size) (m : Marks) :
    (growRun s next inLoop saved k extra pos m).Reached s pos k := by
  induction extra generalizing pos m with
  | zero =>
    unfold growRun
    split
    · split
      · exact reached_fails _
      · exact reached_here hsize m
    · exact reached_fails _
  | succ extra ih =>
    have hrest : ∀ m, (growRun s next inLoop saved k extra (pos + 1) m).Reached s pos k :=
      fun m => (ih (by omega) m).of_le (by omega)
    unfold growRun
    split
    · split
      · exact hrest _
      · exact reached_here (by omega) m
    · exact hrest m

variable {body : Run} (hbody : body.Forward s) {least : Nat} {most : Option Nat}
include hbody

theorem reached_greedyLoop (fuel count : Nat) (last : Option Nat) {pos : Nat} (hpos : pos ≤ s.size) (m : Marks) :
    (greedyLoop body least most k fuel count last pos m).Reached s pos k := by
  induction fuel generalizing count last pos m with
  | zero => exact reached_fails m
  | succ fuel ih =>
    have hround : ∀ last', (body pos m fun p m => greedyLoop body least most k fuel (count + 1) last' p m).Reached s pos k :=
      fun last' => (hbody pos m _ hpos).trans fun q m _ hq => ih (count + 1) last' hq m
    unfold greedyLoop
    split
    · exact hround last
    · split
      · split
        · exact reached_here hpos m
        · exact hround (some pos)
      · exact reached_here hpos m

theorem reached_lazyLoop (fuel count : Nat) (last : Option Nat) {pos : Nat} (hpos : pos ≤ s.size) (m : Marks) :
    (lazyLoop inLoop body least most k fuel count last pos m).Reached s pos k := by
  induction fuel generalizing count last pos m with
  | zero => exact reached_fails m
  | succ fuel ih =>
    have hround : ∀ m last', (body pos m fun p m => lazyLoop inLoop body least most k fuel (count + 1) last' p m).Reached s pos k :=
      fun m last' => (hbody pos m _ hpos).trans fun q m _ hq => ih (count + 1) last' hq m
    unfold lazyLoop
    split
    · exact hround m last
    · split
      · split
        · exact hround _ (some pos)
        · exact reached_fails _
      · exact reached_here hpos m

theorem reached_possessiveLoop (fuel count : Nat) (last : Option Nat) {pos : Nat} (hpos : pos ≤ s.size) (m : Marks) :
    (possessiveLoop body least most fuel count last pos m).Reached s pos .stops := by
  induction fuel generalizing count last pos m with
  | zero => exact reached_fails m
  | succ fuel ih =>
    have hround : ∀ {p now}, body pos m .stops = .stops p now → ∀ last',
        (possessiveLoop body least most fuel (count + 1) last' p now).Reached s pos .stops := by
      intro p now hstop last'
      obtain ⟨hp, hsize⟩ := (hbody pos m .stops hpos).place hstop
      exact (ih (count + 1) last' hsize now).of_le hp
    unfold possessiveLoop
    split
    · split
      · next hstop => exact hround hstop last
      · exact reached_fails _
    · split
      · split
        · next hstop => exact hround hstop (some pos)
        · exact reached_here hpos m
      · exact reached_here hpos m

end Constructs

/-! ## Patterns -/

theorem forward_attempt (s : Array Char) (p : Pattern) (inLoop : Bool) : Run.Forward s (p.attempt s inLoop) := by
  induction p generalizing inLoop with
  | empty => exact fun pos m k hpos => reached_here hpos m
  | one set =>
    intro pos m k hpos
    unfold Pattern.attempt
    split
    · next hfit => exact reached_at (Nat.le_succ pos) (lt_size_of_fits hfit) m
    · exact reached_fails m
  | seq a b iha ihb =>
    intro pos m k hpos
    exact (iha inLoop pos m _ hpos).trans fun q m _ hq => ihb inLoop q m k hq
  | alt a b iha ihb =>
    intro pos m k hpos
    unfold Pattern.attempt
    split
    · split
      · exact reached_fails _
      · exact ihb inLoop pos _ k hpos
    · exact iha inLoop pos m k hpos
  | charLoop set least most mode next =>
    intro pos m k hpos
    unfold Pattern.attempt
    dsimp only
    generalize hend : runEnd set s pos _ = stop
    have hstop : pos ≤ stop ∧ stop ≤ s.size := by
      rw [← hend]
      exact runEnd_bounds set hpos _
    split
    · exact reached_fails m
    · next hleast =>
      have hroom : pos + least + (stop - (pos + least)) ≤ s.size := by omega
      cases mode with
      | greedy => exact (reached_shrinkRun _ hroom m).of_le (Nat.le_add_right pos least)
      | lazy => exact (reached_growRun _ hroom m).of_le (Nat.le_add_right pos least)
      | possessive => exact reached_at hstop.1 hstop.2 m
  | loop body least most mode ih =>
    intro pos m k hpos
    unfold Pattern.attempt
    cases mode with
    | greedy => exact reached_greedyLoop (ih true) _ 0 none hpos m
    | lazy => exact reached_lazyLoop (ih true) _ 0 none hpos m
    | possessive =>
      dsimp only
      split
      · next hstop =>
        obtain ⟨hp, hsize⟩ := (reached_possessiveLoop (ih inLoop) _ 0 none hpos m).place hstop
        exact reached_at hp hsize _
      · exact reached_fails _
  | group index body ih =>
    intro pos m k hpos
    exact (ih inLoop pos _ _ hpos).trans fun q m _ hq => reached_here hq _
  | again index fold =>
    intro pos m k hpos
    unfold Pattern.attempt
    split
    · exact reached_fails m
    · split
      · next hsame => exact reached_at (Nat.le_add_right _ _) (add_le_size_of_sameText hpos hsame) m
      · exact reached_fails m
  | anchor place =>
    intro pos m k hpos
    unfold Pattern.attempt
    split
    · exact reached_here hpos m
    · exact reached_fails m
  | ahead negated body ih =>
    intro pos m k hpos
    unfold Pattern.attempt
    split <;> split
    · exact reached_fails _
    · exact reached_here hpos _
    · exact reached_here hpos _
    · exact reached_fails _
  | behind negated width body ih =>
    intro pos m k hpos
    unfold Pattern.attempt
    split
    · split
      · exact reached_here hpos m
      · exact reached_fails m
    · split <;> split
      · exact reached_fails _
      · exact reached_here hpos _
      · exact reached_here hpos _
      · exact reached_fails _
  | atomic body ih =>
    intro pos m k hpos
    unfold Pattern.attempt
    split
    · next hstop =>
      obtain ⟨hp, hsize⟩ := (ih inLoop pos m .stops hpos).place hstop
      exact reached_at hp hsize _
    · exact reached_fails _
  | given index yes no ihy ihn =>
    intro pos m k hpos
    unfold Pattern.attempt
    split
    · exact ihy inLoop pos m k hpos
    · exact ihn inLoop pos m k hpos

/-! ## Searching -/

def Hit.Within (s : Array Char) (hit : Hit) : Prop :=
  ∀ start stop marks, hit = .found start stop marks → start ≤ stop ∧ stop ≤ s.size

section Search
variable {s : Array Char}

namespace Pattern

theorem within_stopAt (p : Pattern) (notEmpty : Bool) {pos : Nat} (hpos : pos ≤ s.size) :
    (p.stopAt s notEmpty pos).Within s := by
  intro start stop marks h
  unfold stopAt at h
  split at h
  · next stop' m hstop =>
    cases h
    obtain ⟨q, m₁, hq, hsize, hk⟩ := forward_attempt s p false pos [] _ hpos stop marks hstop
    -- the last continuation accepts a place as it is, or not at all
    dsimp only at hk
    split at hk
    · cases hk
    · cases hk
      exact ⟨hq, hsize⟩
  · cases h

end Pattern

namespace Program

theorem within_findFrom (p : Program) (fuel : Nat) (notEmpty : Bool) {pos : Nat} (hpos : pos ≤ s.size) :
    ∀ m ∈ (p.findFrom s fuel notEmpty pos).matched, m.start ≤ m.stop ∧ m.stop ≤ s.size ∧ m.text = textBetween s m.start m.stop := by
  induction fuel generalizing notEmpty pos with
  | zero => simp [findFrom]
  | succ fuel ih =>
    unfold findFrom
    split
    · simp
    · next start stop marks hit =>
      obtain ⟨first, place, hplace, hfound⟩ := exists_stopAt_of_search Hit.noConfusion hit
      obtain ⟨hle, hsize⟩ := p.pattern.within_stopAt first (hplace hpos) start stop marks hfound
      split
      · simp
      · exact List.forall_mem_cons.mpr ⟨⟨hle, hsize, rfl⟩, ih _ hsize⟩

/-- What a search finds in a text stands there, at the place that it says. -/
theorem exists_split_of_findAll (p : Program) {text : String} {m : Match} (hm : m ∈ (p.findAll text).matched) :
    ∃ before after, text.toList = before ++ m.text ++ after ∧ before.length = m.start := by
  obtain ⟨hle, hsize, htext⟩ := within_findFrom p _ false (Nat.zero_le _) m hm
  have hlength : text.toList.toArray.size = text.toList.length := List.size_toArray
  rw [hlength] at hsize
  refine ⟨text.toList.take m.start, text.toList.drop m.stop, ?_, ?_⟩
  · rw [htext, textBetween, Array.toList_extract, List.extract_eq_take_drop]
    -- the matched part and what follows it are what follows its start
    have hrest : (text.toList.drop m.start).drop (m.stop - m.start) = text.toList.drop m.stop := by
      rw [List.drop_drop]
      congr 1
      omega
    rw [List.append_assoc, ← hrest, List.take_append_drop, List.take_append_drop]
  · rw [List.length_take]
    omega

end Program

end Search

end ThreatScan.Regex

namespace ThreatScan.Rule

open Regex

/-- A finding of the scan is on the line that it names, at its column. -/
theorem exists_line_of_mem_scanAll {rules : List Rule} {source : String} {m : RuleMatch}
    (hm : m ∈ scanAll regexEngine rules source) : ∃ i line, m.line = i + 1 ∧ (Text.lines source)[i]? = some line ∧
      ∃ before after, line.toList = before ++ m.text.toList ++ after ∧ before.length = m.column := by
  rw [scanAll_eq_lineMajor, lineMajor, List.mem_flatMap] at hm
  obtain ⟨⟨line, n⟩, he, hm⟩ := hm
  obtain ⟨r, -, hm⟩ := List.mem_flatMap.mp hm
  obtain ⟨hn, hlt, hline⟩ := List.mem_zipIdx he
  refine ⟨n - 1, line, ?_, ?_, ?_⟩
  · rw [line_of_mem_entriesOn regexEngine r _ hm]
    omega
  · rw [hline]
    exact List.getElem?_eq_getElem _
  · unfold entriesOn at hm
    split at hm
    · next find hfind =>
      obtain ⟨f, hf, rfl⟩ := List.mem_map.mp hm
      unfold finder? at hfind
      split at hfind
      · split at hfind
        · cases hfind
        · obtain ⟨p, -, rfl⟩ := Option.map_eq_some_iff.mp hfind
          obtain ⟨g, hg, rfl⟩ := List.mem_map.mp hf
          obtain ⟨before, after, hsplit, hlength⟩ := p.exists_split_of_findAll hg
          refine ⟨before, after, ?_, hlength⟩
          rw [hsplit, Match.textString, String.toList_ofList]
      · cases hfind
    · cases hm

end ThreatScan.Rule
