import ThreatScan.Proofs.Checked
import ThreatScan.Proofs.Snippet.Escape
import ThreatScan.Snippet.Reader
/-!
The markup of the snippet reader does not depend on what it shows.

Of a source only the number of its lines, and of threats only the lines that they list and the severities, have a say in the
markup. Texts come into it escaped. The relations `SameMark` and `SameLines` say that two marks, or the marked lines of two
lists of threats, differ in the kinds of threats only. Each function of the reader keeps to the brackets and quotes of its
text (`SameDividers`) from one to the other, and fails alike (`Agree`): a line, a snippet, all snippets and the whole markup.

What is proved: two readings with the same number of lines and the same listed lines and severities give markup with the same
brackets and quotes in the same order (`reading_dividers_fixed`).
-/
namespace ThreatScan.Snippet

open Checked (Agree)
open Markup (isDivider kept_escape)
open Text (kept kept_append kept_join)

def SameDividers (s t : String) : Prop := kept isDivider s = kept isDivider t

/-- Brackets and quotes of the markup that is shown; none if a notice is shown. -/
def Reading.dividers : Reading → Option (List Char)
  | .notice _ => none
  | .markup html => some (kept isDivider html)

/-- The positive line numbers that a threat lists, each with the mark that it leaves there. -/
def listedBy (threat : Value) : Except Fault (List (Int × Mark)) := do
  let severity ← threat.get "severity" (.str "medium")
  let kind ← threat.get "threat_type" (.str "未知")
  let numbers ← (← numbersOf threat).mapM lineNumber?
  return (numbers.filterMap fun n => n.filter (0 < ·)).map fun n => (n, ⟨kind, severity⟩)

def listedByAll (threats : List Value) : Except Fault (List (Int × Mark)) := do
  return (← threats.mapM listedBy).flatten

def SameMark (m m' : Mark) : Prop := m.severity = m'.severity ∧ (∃ s, m.kind = .str s) ∧ ∃ s, m'.kind = .str s

def SameLines (marks marks' : LineMarks) : Prop :=
  List.Forall₂ (fun a b => a.1 = b.1 ∧ List.Forall₂ SameMark a.2 b.2) marks marks'

def LineMarks.addAll (marks : LineMarks) (listed : List (Int × Mark)) : LineMarks :=
  listed.foldl (fun marks x => marks.add x.1 x.2) marks

/-! ## Marked lines -/

theorem markLines_eq (m : Mark) (numbers : List Value) (marks : LineMarks) :
    markLines m numbers marks = do
      let ns ← numbers.mapM lineNumber?
      return marks.addAll ((ns.filterMap fun n => n.filter (0 < ·)).map fun n => (n, m)) := by
  unfold markLines
  induction numbers generalizing marks with
  | nil => rfl
  | cons v rest ih =>
    rw [List.foldlM_cons, List.mapM_cons]
    cases hv : lineNumber? v with
    | error f => rfl
    | ok n? =>
      simp only [Checked.ok_bind, bind_assoc]
      cases n? with
      | none =>
        simp only [pure_bind, ih]
        simp
      | some n =>
        simp only [pure_bind, ih]
        by_cases hn : 0 < n
        · have hsome : (some n).filter (fun k => decide (0 < k)) = some n := by simp [hn]
          simp [hn, List.filterMap_cons_some hsome, LineMarks.addAll]
        · have hnone : (some n).filter (fun k => decide (0 < k)) = none := by simpa using hn
          simp [hn, List.filterMap_cons_none hnone]

theorem markThreat_eq (marks : LineMarks) (threat : Value) :
    markThreat marks threat = do return marks.addAll (← listedBy threat) := by
  unfold markThreat listedBy
  simp only [markLines_eq, bind_assoc, pure_bind]

theorem ofThreats_eq (threats : List Value) :
    LineMarks.ofThreats threats = do return LineMarks.addAll [] (← listedByAll threats) := by
  unfold LineMarks.ofThreats listedByAll
  -- The marks that are there already come first.
  suffices h : ∀ marks : LineMarks, threats.foldlM markThreat marks =
      (do return marks.addAll (← threats.mapM listedBy).flatten) by
    rw [h, bind_assoc]
    simp only [pure_bind]
  induction threats with
  | nil => intro marks; rfl
  | cons threat rest ih =>
    intro marks
    rw [List.foldlM_cons, List.mapM_cons, markThreat_eq]
    simp only [bind_assoc, pure_bind, ih]
    simp [LineMarks.addAll, List.foldl_append]

namespace SameLines

theorem add {marks marks' : LineMarks} (h : SameLines marks marks') (line : Int) {m m' : Mark} (hm : SameMark m m') :
    SameLines (marks.add line m) (marks'.add line m') := by
  induction h with
  | nil => exact .cons ⟨rfl, .cons hm .nil⟩ .nil
  | @cons a b as bs hab hrest ih =>
    obtain ⟨k, ms⟩ := a
    obtain ⟨k', ms'⟩ := b
    obtain ⟨rfl, hms⟩ : k = k' ∧ List.Forall₂ SameMark ms ms' := hab
    unfold LineMarks.add
    by_cases hk : k = line
    · rw [if_pos hk, if_pos hk]
      exact .cons ⟨rfl, List.rel_append hms (.cons hm .nil)⟩ hrest
    · rw [if_neg hk, if_neg hk]
      exact .cons ⟨rfl, hms⟩ ih

theorem addAll {marks marks' : LineMarks} (h : SameLines marks marks') {listed listed' : List (Int × Mark)}
    (hl : List.Forall₂ (fun x y => x.1 = y.1 ∧ SameMark x.2 y.2) listed listed') :
    SameLines (marks.addAll listed) (marks'.addAll listed') := by
  induction hl generalizing marks marks' with
  | nil => exact h
  | @cons x y xs ys hxy _ ih =>
    have hadd : SameLines (marks.add x.1 x.2) (marks'.add y.1 y.2) := hxy.1 ▸ h.add x.1 hxy.2
    exact ih hadd

theorem lines_eq {marks marks' : LineMarks} (h : SameLines marks marks') : marks.lines = marks'.lines := by
  induction h with
  | nil => rfl
  | cons hab _ ih => simp only [LineMarks.lines, List.map_cons, hab.1] at ih ⊢; rw [ih]

theorem get? {marks marks' : LineMarks} (h : SameLines marks marks') (n : Int) :
    Option.Rel (List.Forall₂ SameMark) (marks.get? n) (marks'.get? n) := by
  induction h with
  | nil => exact .none
  | @cons a b as bs hab _ ih =>
    obtain ⟨k, ms⟩ := a
    obtain ⟨k', ms'⟩ := b
    obtain ⟨rfl, hms⟩ : k = k' ∧ List.Forall₂ SameMark ms ms' := hab
    unfold LineMarks.get?
    by_cases hk : k = n
    · rw [if_pos hk, if_pos hk]
      exact .some hms
    · rw [if_neg hk, if_neg hk]
      exact ih

end SameLines

/-! ## The start of a line -/

theorem mem_of_mem_distinct {v : Value} {vs : List Value} (h : v ∈ distinct vs) : v ∈ vs := by
  induction vs with
  | nil => exact h
  | cons w rest ih =>
    rcases List.mem_cons.mp h with rfl | h
    · exact List.mem_cons_self
    · exact List.mem_cons_of_mem w (ih (List.mem_filter.mp h).1)

theorem mapM_text? {vs : List Value} (h : ∀ v ∈ vs, ∃ s, v = .str s) : ∃ texts, vs.mapM Value.text? = some texts := by
  induction vs with
  | nil => exact ⟨[], rfl⟩
  | cons v rest ih =>
    obtain ⟨s, rfl⟩ := h v List.mem_cons_self
    obtain ⟨texts, ht⟩ := ih fun w hw => h w (List.mem_cons_of_mem _ hw)
    exact ⟨s :: texts, by simp [List.mapM_cons, ht, Value.text?]⟩

theorem hashableItems_eq_ok {vs : List Value} (h : ∀ v ∈ vs, v.hashable = .ok ()) : Value.hashableItems vs = .ok () := by
  induction vs with
  | nil => rfl
  | cons v rest ih =>
    rw [Value.hashableItems, h v List.mem_cons_self]
    exact ih fun w hw => h w (List.mem_cons_of_mem v hw)

/-- Kinds that are texts are listed in order, without repetition. -/
theorem exists_kindList_eq {ms : List Mark} (h : ∀ m ∈ ms, ∃ s, m.kind = .str s) :
    ∃ texts, (distinct (ms.map Mark.kind)).mapM Value.text? = some texts ∧
      kindList ms = .ok (Text.join ", " (Text.sortedTexts texts)) := by
  have hkinds : ∀ v ∈ ms.map Mark.kind, ∃ s, v = .str s := by
    intro v hv
    obtain ⟨m, hm, rfl⟩ := List.mem_map.mp hv
    exact h m hm
  have hhashable : Value.hashableItems (ms.map Mark.kind) = .ok () := by
    apply hashableItems_eq_ok
    intro v hv
    obtain ⟨s, rfl⟩ := hkinds v hv
    rfl
  obtain ⟨texts, ht⟩ := mapM_text? fun v hv => hkinds v (mem_of_mem_distinct hv)
  refine ⟨texts, ht, ?_⟩
  unfold kindList
  rw [hhashable, Checked.ok_bind]
  simp only [ht]
  rfl

theorem exists_kindList {ms : List Mark} (h : ∀ m ∈ ms, ∃ s, m.kind = .str s) : ∃ kinds, kindList ms = .ok kinds := by
  obtain ⟨texts, -, hlist⟩ := exists_kindList_eq h
  exact ⟨_, hlist⟩

theorem SameMark.severities {ms ms' : List Mark} (h : List.Forall₂ SameMark ms ms') :
    ms.map Mark.severity = ms'.map Mark.severity := by
  induction h with
  | nil => rfl
  | cons hm _ ih => rw [List.map_cons, List.map_cons, hm.1, ih]

theorem highest_eq {ms ms' : List Mark} (h : ms.map Mark.severity = ms'.map Mark.severity) : highest ms = highest ms' := by
  have hranks : ∀ ms : List Mark, (ms.map fun m => rank m.severity) = (ms.map Mark.severity).map rank := by simp
  unfold highest
  rw [hranks, hranks, h]

theorem agree_lineStart {marks marks' : Option (List Mark)} (h : Option.Rel (List.Forall₂ SameMark) marks marks') :
    Agree SameDividers (lineStart marks) (lineStart marks') := by
  cases h with
  | none => exact rfl
  | @some ms ms' hms =>
    have hseverities := SameMark.severities hms
    obtain ⟨kinds, hk⟩ : ∃ kinds, kindList ms = .ok kinds := by
      apply exists_kindList
      intro m hm
      obtain ⟨m', -, hmm⟩ := exists_right_of_forall₂ hms hm
      exact hmm.2.1
    obtain ⟨kinds', hk'⟩ : ∃ kinds, kindList ms' = .ok kinds := by
      apply exists_kindList
      intro m' hm
      obtain ⟨m, -, hmm⟩ := exists_left_of_forall₂ hms hm
      exact hmm.2.2
    simp only [lineStart, hseverities, hk, hk', Checked.ok_bind, highest_eq hseverities]
    refine Agree.bind' (Agree.refl (fun _ => rfl) _) fun _ _ _ => Agree.pure' ?_
    simp only [SameDividers, kept_append, kept_escape]

/-! ## Lines, snippets and the whole markup -/

section Shown
variable {lines lines' : List String} {marks marks' : LineMarks}

theorem agree_lineMarkup (h : SameLines marks marks') (n : Int) :
    Agree SameDividers (lineMarkup lines marks n) (lineMarkup lines' marks' n) := by
  unfold lineMarkup
  refine Agree.bind' (agree_lineStart (h.get? n)) fun s t hst => Agree.pure' ?_
  simp only [SameDividers, kept_append, kept_escape] at hst ⊢
  rw [hst]

theorem sameDividers_join {ss ts : List String} (h : List.Forall₂ SameDividers ss ts) :
    SameDividers (Text.join "" ss) (Text.join "" ts) := by
  unfold SameDividers
  rw [kept_join rfl, kept_join rfl]
  induction h with
  | nil => rfl
  | cons hst _ ih => rw [List.flatMap_cons, List.flatMap_cons, ih, show kept isDivider _ = _ from hst]

theorem agree_snippetMarkup (h : SameLines marks marks') (number : Nat) (r : LineRange) :
    Agree SameDividers (snippetMarkup lines marks number r) (snippetMarkup lines' marks' number r) := by
  have hnumbers : List.Forall₂ Eq (numbersIn r) (numbersIn r) := List.forall₂_refl _
  have hbody : Agree (List.Forall₂ SameDividers) ((numbersIn r).mapM (lineMarkup lines marks))
      ((numbersIn r).mapM (lineMarkup lines' marks')) :=
    Agree.mapM hnumbers fun a b hab => hab ▸ agree_lineMarkup h a
  unfold snippetMarkup
  refine Agree.bind' hbody fun ss ts hst => Agree.pure' ?_
  have hjoin := sameDividers_join hst
  simp only [SameDividers, kept_append] at hjoin ⊢
  rw [hjoin]

theorem agree_snippetsFrom (h : SameLines marks marks') (n : Nat) (ranges : List LineRange) :
    Agree (List.Forall₂ SameDividers) (snippetsFrom lines marks n ranges) (snippetsFrom lines' marks' n ranges) := by
  induction ranges generalizing n with
  | nil => exact List.Forall₂.nil
  | cons r rest ih =>
    unfold snippetsFrom
    exact Agree.bind' (agree_snippetMarkup h n r) fun s t hst =>
      Agree.bind' (ih (n + 1)) fun ss ts hsts => Agree.pure' (.cons hst hsts)

theorem agree_markup (hlength : lines.length = lines'.length) (h : SameLines marks marks') (context limit : Int) :
    Agree SameDividers (markup lines marks context limit) (markup lines' marks' context limit) := by
  unfold markup
  rw [h.lines_eq, hlength]
  refine Agree.bind' (agree_snippetsFrom h 1 _) fun ss ts hst => Agree.pure' ?_
  have hjoin := sameDividers_join hst
  simp only [SameDividers, kept_append] at hjoin ⊢
  rw [hjoin]

end Shown

/-! ## Readings that succeed -/

def Mark.Printable (m : Mark) : Prop := m.severity.hashable = .ok () ∧ ∃ s, m.kind = .str s

namespace LineMarks

def Printable (marks : LineMarks) : Prop := ∀ a ∈ marks, ∀ m ∈ a.2, m.Printable

theorem Printable.add {marks : LineMarks} (h : marks.Printable) (line : Int) {m : Mark} (hm : m.Printable) :
    (marks.add line m).Printable := by
  induction marks with
  | nil => simpa [LineMarks.add, Printable] using hm
  | cons a rest ih =>
    obtain ⟨k, ms⟩ := a
    have hms : ∀ x ∈ ms, x.Printable := h (k, ms) List.mem_cons_self
    have hrest : LineMarks.Printable rest := fun b hb => h b (List.mem_cons_of_mem _ hb)
    unfold LineMarks.add
    by_cases hk : k = line
    · rw [if_pos hk]
      intro b hb x hx
      rcases List.mem_cons.mp hb with rfl | hb
      · rcases List.mem_append.mp hx with hx | hx
        · exact hms x hx
        · rw [List.mem_singleton.mp hx]
          exact hm
      · exact hrest b hb x hx
    · rw [if_neg hk]
      intro b hb
      rcases List.mem_cons.mp hb with rfl | hb
      · exact hms
      · exact ih hrest b hb

theorem Printable.addAll {marks : LineMarks} (h : marks.Printable) {listed : List (Int × Mark)}
    (hl : ∀ x ∈ listed, x.2.Printable) : (marks.addAll listed).Printable := by
  induction listed generalizing marks with
  | nil => exact h
  | cons x rest ih =>
    have hadd : (marks.add x.1 x.2).Printable := h.add x.1 (hl x List.mem_cons_self)
    exact ih hadd fun y hy => hl y (List.mem_cons_of_mem x hy)

theorem Printable.get? {marks : LineMarks} (h : marks.Printable) {n : Int} {ms : List Mark}
    (hn : marks.get? n = some ms) : ∀ m ∈ ms, m.Printable := by
  induction marks with
  | nil => cases hn
  | cons a rest ih =>
    obtain ⟨k, ks⟩ := a
    unfold LineMarks.get? at hn
    by_cases hk : k = n
    · rw [if_pos hk] at hn
      rw [← Option.some.inj hn]
      exact h (k, ks) List.mem_cons_self
    · rw [if_neg hk] at hn
      exact ih (fun b hb => h b (List.mem_cons_of_mem _ hb)) hn

theorem add_ne_nil (marks : LineMarks) (line : Int) (m : Mark) : marks.add line m ≠ [] := by
  cases marks with
  | nil => simp [add]
  | cons a rest =>
    unfold add
    split <;> simp

theorem addAll_ne_nil {marks : LineMarks} (h : marks ≠ []) (listed : List (Int × Mark)) : marks.addAll listed ≠ [] := by
  induction listed generalizing marks with
  | nil => exact h
  | cons x rest ih => exact ih (add_ne_nil marks x.1 x.2)

end LineMarks

theorem hashableItems_severities {ms : List Mark} (h : ∀ m ∈ ms, m.Printable) :
    Value.hashableItems (ms.map Mark.severity) = .ok () := by
  apply hashableItems_eq_ok
  intro v hv
  obtain ⟨m, hm, rfl⟩ := List.mem_map.mp hv
  exact (h m hm).1

theorem exists_lineStart {ms : List Mark} (h : ∀ m ∈ ms, m.Printable) : ∃ s, lineStart (some ms) = .ok s := by
  obtain ⟨kinds, hk⟩ := exists_kindList fun m hm => (h m hm).2
  unfold lineStart
  simp only [hashableItems_severities h, hk, Checked.ok_bind]
  exact ⟨_, rfl⟩

theorem exists_snippetMarkup {marks : LineMarks} (h : marks.Printable) (lines : List String) (n : Nat) (r : LineRange) :
    ∃ s, snippetMarkup lines marks n r = .ok s := by
  obtain ⟨body, hbody⟩ : ∃ body, (numbersIn r).mapM (lineMarkup lines marks) = .ok body := by
    apply Checked.exists_mapM_eq_ok
    intro k _
    obtain ⟨start, hs⟩ : ∃ s, lineStart (marks.get? k) = .ok s := by
      cases hk : marks.get? k with
      | none => exact ⟨_, rfl⟩
      | some ms => exact exists_lineStart (h.get? hk)
    unfold lineMarkup
    rw [hs]
    exact ⟨_, rfl⟩
  unfold snippetMarkup
  rw [hbody]
  exact ⟨_, rfl⟩

theorem exists_snippetsFrom {marks : LineMarks} (h : marks.Printable) (lines : List String) (n : Nat)
    (ranges : List LineRange) : ∃ ss, snippetsFrom lines marks n ranges = .ok ss := by
  induction ranges generalizing n with
  | nil => exact ⟨[], rfl⟩
  | cons r rest ih =>
    obtain ⟨s, hs⟩ := exists_snippetMarkup h lines n r
    obtain ⟨ss, hss⟩ := ih (n + 1)
    unfold snippetsFrom
    rw [hs, hss]
    exact ⟨s :: ss, rfl⟩

theorem exists_markup {marks : LineMarks} (h : marks.Printable) (lines : List String) (context limit : Int) :
    ∃ html, markup lines marks context limit = .ok html := by
  unfold markup
  obtain ⟨ss, hss⟩ := exists_snippetsFrom h lines 1
    (firstRanges limit (contextRanges (marks.lines.mergeSort fun a b => decide (a ≤ b)) lines.length context))
  simp only [hss, Checked.ok_bind]
  exact ⟨_, rfl⟩

/-! ## Readings -/

theorem displayLinesFrom_eq_nil {line s : List Char} : Text.displayLinesFrom line s = [] ↔ line = [] ∧ s = [] := by
  fun_induction Text.displayLinesFrom line s with
  | case1 line h => simpa using h
  | case2 line h => simpa using h
  | case3 => simp
  | case4 => simp
  | case5 line c rest _ _ ih => simp [ih]

theorem displayLines_eq_nil {s : String} : Text.displayLines s = [] ↔ s = "" := by
  unfold Text.displayLines
  rw [List.map_eq_nil_iff, displayLinesFrom_eq_nil]
  simp

section Reading
variable {source : String} {threats : List Value} {listed : List (Int × Mark)}

theorem read_empty (threats : Value) (context limit : Int) :
    ∃ text, read (.str "") threats context limit = .ok (.notice text) := ⟨_, rfl⟩

theorem read_of_not_listed (source : String) (h : listedByAll threats = .ok []) (context limit : Int) :
    ∃ text, read (.str source) (.list threats) context limit = .ok (.notice text) := by
  have hmarks : LineMarks.ofThreats threats = .ok [] := by rw [ofThreats_eq, h]; rfl
  unfold read
  by_cases hs : Value.truthy (.str source) = true
  · by_cases ht : Value.truthy (.list threats) = true
    · simp only [hs, ht, Value.text, Value.items, hmarks, Checked.ok_bind]
      exact ⟨_, rfl⟩
    · simp only [hs, ht]
      exact ⟨_, rfl⟩
  · simp only [hs]
    exact ⟨_, rfl⟩

theorem read_of_listed (hs : source ≠ "") (h : listedByAll threats = .ok listed) (hne : listed ≠ []) (context limit : Int) :
    read (.str source) (.list threats) context limit =
      (do return .markup (← markup (Text.displayLines source) (LineMarks.addAll [] listed) context limit)) := by
  have hmarks : LineMarks.ofThreats threats = .ok (LineMarks.addAll [] listed) := by rw [ofThreats_eq, h]; rfl
  have hempty : (LineMarks.addAll [] listed).isEmpty = false := by
    obtain ⟨x, rest, rfl⟩ := List.exists_cons_of_ne_nil hne
    have hadded : LineMarks.addAll [] (x :: rest) ≠ [] :=
      LineMarks.addAll_ne_nil (LineMarks.add_ne_nil [] x.1 x.2) rest
    simpa using hadded
  have htruthy : Value.truthy (.str source) = true := by simpa [Value.truthy] using hs
  have hthreats : Value.truthy (.list threats) = true := by
    cases threats with
    | nil => cases h; exact absurd rfl hne
    | cons threat rest => rfl
  unfold read
  simp only [htruthy, hthreats, Value.text, Value.items, hmarks, hempty, Checked.ok_bind]
  rfl

end Reading

/-- Texts of the source and kinds of threats have no say in the brackets and quotes of the markup: with the same number of
lines, and the same positive line numbers listed in the same order with the same severities, two readings fail alike or show
the same brackets and quotes in the same order. Markup is shown if a line is listed, the source is not empty and the
severities can be told apart. -/
theorem reading_dividers_fixed {source source' : String} {threats threats' : List Value} {listed listed' : List (Int × Mark)}
    (hlines : (Text.displayLines source).length = (Text.displayLines source').length)
    (hl : listedByAll threats = .ok listed) (hl' : listedByAll threats' = .ok listed')
    (hsame : List.Forall₂ (fun x y => x.1 = y.1 ∧ SameMark x.2 y.2) listed listed') (context limit : Int) :
    Agree (fun a b => a.dividers = b.dividers) (read (.str source) (.list threats) context limit)
        (read (.str source') (.list threats') context limit) ∧
      (source ≠ "" → listed ≠ [] → (∀ x ∈ listed, x.2.severity.hashable = .ok ()) →
        ∃ html html', read (.str source) (.list threats) context limit = .ok (.markup html) ∧
          read (.str source') (.list threats') context limit = .ok (.markup html') ∧
          kept isDivider html = kept isDivider html') := by
  have hempty : source = "" ↔ source' = "" := by
    rw [← displayLines_eq_nil, ← displayLines_eq_nil, ← List.length_eq_zero_iff, hlines, List.length_eq_zero_iff]
  have hnone : listed = [] ↔ listed' = [] := by
    rw [← List.length_eq_zero_iff, hsame.length_eq, List.length_eq_zero_iff]
  have hstart : SameLines [] [] := List.Forall₂.nil
  have hmarks : SameLines (LineMarks.addAll [] listed) (LineMarks.addAll [] listed') := hstart.addAll hsame
  have hmarkup := agree_markup hlines hmarks context limit
  constructor
  · by_cases hs : source = ""
    · obtain ⟨text, ht⟩ := read_empty (.list threats) context limit
      obtain ⟨text', ht'⟩ := read_empty (.list threats') context limit
      rw [hempty.mp hs, hs, ht, ht']
      exact rfl
    by_cases hn : listed = []
    · obtain ⟨text, ht⟩ := read_of_not_listed source (hn ▸ hl) context limit
      obtain ⟨text', ht'⟩ := read_of_not_listed source' (hnone.mp hn ▸ hl') context limit
      rw [ht, ht']
      exact rfl
    rw [read_of_listed hs hl hn, read_of_listed (mt hempty.mpr hs) hl' (mt hnone.mpr hn)]
    exact Agree.bind' hmarkup fun a b hab => Agree.pure' (congrArg some hab)
  · intro hs hn hseverities
    have hprintable : LineMarks.Printable (LineMarks.addAll [] listed) := by
      have hnone : LineMarks.Printable [] := by intro a ha; cases ha
      refine hnone.addAll fun x hx => ?_
      obtain ⟨y, -, hxy⟩ := exists_right_of_forall₂ hsame hx
      exact ⟨hseverities x hx, hxy.2.2.1⟩
    obtain ⟨html, hh⟩ := exists_markup hprintable (Text.displayLines source) context limit
    obtain ⟨html', hh', hdividers⟩ := hmarkup.exists_ok hh
    rw [read_of_listed hs hl hn, read_of_listed (mt hempty.mpr hs) hl' (mt hnone.mpr hn), hh, hh']
    exact ⟨html, html', rfl, rfl, hdividers⟩

def highThreat (kind : String) (numbers : List Value) : Value :=
  .dict [("threat_type", .str kind), ("severity", .str "high"), ("line_numbers", .list numbers)]

/-- A source and a kind of threat with brackets and quotes of their own change nothing. -/
theorem tags_in_source_change_nothing :
    ∃ html html', read (.str "if a<b: print(\"x\")") (.list [highThreat "\"><b>" [.int 1]]) 4 50 = .ok (.markup html) ∧
      read (.str "pass") (.list [highThreat "eval" [.int 0, .str "1"]]) 4 50 = .ok (.markup html') ∧
      kept isDivider html = kept isDivider html' := by
  have hl : listedByAll [highThreat "\"><b>" [.int 1]] = .ok [(1, ⟨.str "\"><b>", .str "high"⟩)] := rfl
  have hl' : listedByAll [highThreat "eval" [.int 0, .str "1"]] = .ok [(1, ⟨.str "eval", .str "high"⟩)] := rfl
  exact (reading_dividers_fixed (by decide) hl hl' (.cons ⟨rfl, rfl, ⟨_, rfl⟩, ⟨_, rfl⟩⟩ .nil) 4 50).2 (by decide)
    (by simp) (by simp [Value.hashable])

end ThreatScan.Snippet
