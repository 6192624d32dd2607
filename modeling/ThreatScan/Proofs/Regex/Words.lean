import ThreatScan.Rule.Scan
/-!
What a pattern of plain text can match.

A pattern made of listed characters, sequences, alternatives and groups stands for finitely many words (`Pattern.words?`).
Matching goes through the ways of the pattern with a continuation, so the statement for the induction is about a
continuation that accepts: then the text at the place goes on with one of the words, and the continuation accepted the place
after it (`exists_word_of_attempt`). Every match that a search finds is therefore one of the words
(`text_mem_words_of_findAll`), and so is every text that a rule with such a pattern finds (`text_mem_words_of_scan`).
-/
namespace ThreatScan.Regex

/-! ## The words of a pattern -/

def ClassItem.char? : ClassItem → Option Char
  | .code n => some (Char.ofNat n)
  | _ => none

def CharClass.chars? (set : CharClass) : Option (List Char) :=
  if set.negated || set.ignoreCase then none else set.items.mapM ClassItem.char?

def Pattern.words? : Pattern → Option (List (List Char))
  | .empty => some [[]]
  | .one set => set.chars?.map fun cs => cs.map fun c => [c]
  | .seq a b =>
    match a.words?, b.words? with
    | some us, some vs => some (us.flatMap fun u => vs.map fun v => u ++ v)
    | _, _ => none
  | .alt a b =>
    match a.words?, b.words? with
    | some us, some vs => some (us ++ vs)
    | _, _ => none
  | .group _ body => body.words?
  | _ => none

theorem mem_of_mapM_char? {items : List ClassItem} {cs : List Char} (h : items.mapM ClassItem.char? = some cs)
    (ascii : Bool) {c : Char} (hc : items.any (·.has ascii c.toNat) = true) : c ∈ cs := by
  induction items generalizing cs with
  | nil => cases hc
  | cons item rest ih =>
    rw [List.mapM_cons] at h
    cases item with
    | code n =>
      simp only [ClassItem.char?, Option.bind_eq_bind, Option.bind_some, Option.bind_eq_some_iff] at h
      obtain ⟨cs', hcs', h⟩ := h
      cases h
      rw [List.any_cons, Bool.or_eq_true] at hc
      rcases hc with hc | hc
      · have hn : c.toNat = n := by simpa [ClassItem.has] using hc
        rw [← hn, Char.ofNat_toNat]
        exact List.mem_cons_self
      · exact List.mem_cons_of_mem _ (ih hcs' hc)
    | _ => cases h

theorem CharClass.mem_of_has {set : CharClass} {cs : List Char} (h : set.chars? = some cs) {c : Char}
    (hc : set.has c = true) : c ∈ cs := by
  unfold chars? at h
  split at h
  · cases h
  · next hplain =>
    simp only [Bool.or_eq_true, not_or, Bool.not_eq_true] at hplain
    refine mem_of_mapM_char? h set.ascii ?_
    simpa [has, hplain.1, hplain.2] using hc

/-! ## Matching -/

variable {s : Array Char} {ws : List (List Char)}

theorem drop_eq_cons_of_fits {set : CharClass} {pos : Nat} (h : set.fits s pos = true) :
    ∃ c, set.has c = true ∧ s.toList.drop pos = c :: s.toList.drop (pos + 1) := by
  unfold CharClass.fits at h
  split at h
  · next c hc =>
    refine ⟨c, h, ?_⟩
    rw [← Array.getElem?_toList, List.getElem?_eq_some_iff] at hc
    obtain ⟨hlt, hc⟩ := hc
    rw [List.drop_eq_getElem_cons hlt, hc]
  · cases h

/-- If a way of matching is accepted, the text goes on with a word of the pattern, and the place after it was accepted. -/
theorem Pattern.exists_word_of_attempt {p : Pattern} (hw : p.words? = some ws) {inLoop : Bool} {pos stop : Nat}
    {m m' : Marks} {k : Continuation} (h : p.attempt s inLoop pos m k = .stops stop m') :
    ∃ w ∈ ws, w <+: s.toList.drop pos ∧ ∃ m₁, k (pos + w.length) m₁ = .stops stop m' := by
  induction p generalizing ws pos m k with
  | empty =>
    cases hw
    exact ⟨[], List.mem_singleton.mpr rfl, List.nil_prefix, m, h⟩
  | one set =>
    obtain ⟨cs, hcs, hw⟩ := Option.map_eq_some_iff.mp hw
    subst hw
    unfold attempt at h
    split at h
    · next hfit =>
      obtain ⟨c, hc, hdrop⟩ := drop_eq_cons_of_fits hfit
      refine ⟨[c], List.mem_map.mpr ⟨c, CharClass.mem_of_has hcs hc, rfl⟩, ?_, m, h⟩
      rw [hdrop]
      exact ⟨_, rfl⟩
    · cases h
  | seq a b iha ihb =>
    simp only [words?] at hw
    split at hw
    · next us vs hu hv =>
      cases hw
      obtain ⟨u, humem, hpre, m₁, h⟩ := iha hu h
      obtain ⟨v, hvmem, hpre', m₂, h⟩ := ihb hv h
      refine ⟨u ++ v, List.mem_flatMap.mpr ⟨u, humem, List.mem_map.mpr ⟨v, hvmem, rfl⟩⟩, ?_, m₂, ?_⟩
      · -- the second word begins where the first ends
        obtain ⟨rest, hrest⟩ := hpre
        rw [← List.drop_drop, ← hrest, List.drop_left] at hpre'
        rw [← hrest]
        exact (List.prefix_append_right_inj u).mpr hpre'
      · rw [List.length_append, ← Nat.add_assoc]
        exact h
    · cases hw
  | alt a b iha ihb =>
    simp only [words?] at hw
    split at hw
    · next us vs hu hv =>
      cases hw
      unfold attempt at h
      split at h
      · split at h
        · cases h
        · next hb =>
          obtain ⟨w, hmem, hrest⟩ := ihb hv h
          exact ⟨w, List.mem_append_right us hmem, hrest⟩
      · obtain ⟨w, hmem, hrest⟩ := iha hu h
        exact ⟨w, List.mem_append_left vs hmem, hrest⟩
    · cases hw
  | group index body ih =>
    obtain ⟨w, hmem, hpre, m₁, h⟩ := ih hw h
    exact ⟨w, hmem, hpre, _, h⟩
  | _ => cases hw

/-! ## Searching -/

def Hit.OnWord (s : Array Char) (ws : List (List Char)) (hit : Hit) : Prop :=
  ∀ start stop marks, hit = .found start stop marks → textBetween s start stop ∈ ws

theorem textBetween_of_prefix {w : List Char} {pos : Nat} (h : w <+: s.toList.drop pos) :
    textBetween s pos (pos + w.length) = w := by
  obtain ⟨rest, hrest⟩ := h
  rw [textBetween, Array.toList_extract, List.extract_eq_take_drop, Nat.add_sub_cancel_left, ← hrest, List.take_left]

namespace Pattern

variable {p : Pattern}

theorem onWord_stopAt (hw : p.words? = some ws) (notEmpty : Bool) (pos : Nat) :
    (p.stopAt s notEmpty pos).OnWord s ws := by
  intro start stop marks h
  unfold stopAt at h
  split at h
  · next stop' m' hstop =>
    cases h
    obtain ⟨w, hmem, hpre, m₁, hk⟩ := exists_word_of_attempt hw hstop
    have hend : pos + w.length = stop := by
      split at hk
      · cases hk
      · cases hk
        rfl
    rw [← hend, textBetween_of_prefix hpre]
    exact hmem
  · cases h

/-- What a search finds, the pattern matches at one of the places. -/
theorem exists_stopAt_of_searchFrom {may : Nat → Bool} {notEmpty : Bool} {pos count : Nat} {hit : Hit} (hne : hit ≠ .nothing)
    (h : p.searchFrom s may notEmpty pos count = hit) : ∃ first place, place ≤ pos + count ∧ p.stopAt s first place = hit := by
  induction count generalizing notEmpty pos with
  | zero =>
    unfold searchFrom at h
    split at h
    · exact ⟨notEmpty, pos, Nat.le_refl pos, h⟩
    · exact absurd h.symm hne
  | succ count ih =>
    unfold searchFrom at h
    split at h
    · obtain ⟨first, place, hle, hfound⟩ := ih h
      exact ⟨first, place, by omega, hfound⟩
    · split at h
      · exact ⟨notEmpty, pos, Nat.le_add_right pos _, h⟩
      · exact absurd h.symm hne

end Pattern

namespace Program

variable {p : Program}

theorem exists_stopAt_of_search {notEmpty : Bool} {pos : Nat} {hit : Hit} (hne : hit ≠ .nothing)
    (h : p.search s notEmpty pos = hit) :
    ∃ first place, (pos ≤ s.size → place ≤ s.size) ∧ p.pattern.stopAt s first place = hit := by
  unfold search at h
  dsimp only at h
  split at h
  · exact absurd h.symm hne
  · split at h
    all_goals
      obtain ⟨first, place, hle, hfound⟩ := Pattern.exists_stopAt_of_searchFrom hne h
      exact ⟨first, place, by omega, hfound⟩

theorem text_mem_words_of_findFrom (hw : p.pattern.words? = some ws) (fuel : Nat) (notEmpty : Bool) (pos : Nat) :
    ∀ found ∈ (p.findFrom s fuel notEmpty pos).matched, found.text ∈ ws := by
  induction fuel generalizing notEmpty pos with
  | zero => simp [findFrom]
  | succ fuel ih =>
    unfold findFrom
    split
    · simp
    · next start stop marks hit =>
      obtain ⟨first, place, -, hfound⟩ := exists_stopAt_of_search Hit.noConfusion hit
      split
      · simp
      · exact List.forall_mem_cons.mpr ⟨Pattern.onWord_stopAt hw first place start stop marks hfound, ih _ _⟩

theorem text_mem_words_of_findAll (hw : p.pattern.words? = some ws) (text : String) :
    ∀ found ∈ (p.findAll text).matched, found.text ∈ ws :=
  text_mem_words_of_findFrom hw _ _ _

end Program
end ThreatScan.Regex

/-! ## Rules -/

namespace ThreatScan.Rule

open Regex

theorem mem_scanFrom {r : Rule} {find : String → LineScan} {lines rest : List String} {first : Nat} {m : RuleMatch}
    (h : m ∈ r.scanFrom find lines first rest) : m.rule = r ∧ ∃ line, ∃ f ∈ (find line).found, m.text = f.text := by
  induction rest generalizing first with
  | nil => cases h
  | cons line rest ih =>
    rcases List.mem_append.mp h with h | h
    · obtain ⟨f, hf, rfl⟩ := List.mem_map.mp h
      exact ⟨rfl, line, f, hf, rfl⟩
    · split at h
      · cases h
      · exact ih h

theorem mem_scan {engine : Engine} {r : Rule} {lines : List String} {m : RuleMatch} (h : m ∈ r.scan engine lines) :
    m.rule = r ∧ ∃ find, r.finder? engine = some find ∧ ∃ line, ∃ f ∈ (find line).found, m.text = f.text := by
  unfold scan at h
  split at h
  · next find hfind =>
    obtain ⟨hr, hm⟩ := mem_scanFrom h
    exact ⟨hr, find, hfind, hm⟩
  · cases h

/-- A rule whose pattern is plain text finds its words only. -/
theorem text_mem_words_of_scan {r : Rule} {pattern : String} {p : Program} {ws : List (List Char)}
    (hr : r.pattern = .str pattern) (hp : compile? pattern = some p) (hw : p.pattern.words? = some ws)
    {lines : List String} {m : RuleMatch} (h : m ∈ r.scan regexEngine lines) : m.text.toList ∈ ws := by
  obtain ⟨-, find, hfind, line, f, hf, htext⟩ := mem_scan h
  have hengine : regexEngine pattern = some find := by
    unfold finder? at hfind
    rw [hr] at hfind
    dsimp only at hfind
    split at hfind
    · cases hfind
    · exact hfind
  unfold regexEngine at hengine
  rw [hp, Option.map_some, Option.some.injEq] at hengine
  subst hengine
  obtain ⟨found, hfound, rfl⟩ := List.mem_map.mp hf
  rw [htext]
  have hlist : found.textString.toList = found.text := String.toList_ofList
  rw [hlist]
  exact Program.text_mem_words_of_findAll hw line found hfound

end ThreatScan.Rule
